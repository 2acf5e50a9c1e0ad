import InventoryQuery.Proofs.Number.Digits
import InventoryQuery.Proofs.Number.Rounding

/-!
# Shortest decimals that are read back

The shortest decimal of a number lies in its rounding interval.  On the grid of seventeen digits
the steps are smaller than that interval, so the search for a decimal ends there at the latest.
-/

namespace InventoryQuery.Binary64

open Number (natText twoTo tenTo ofDigits)

variable {significand shift num den : Nat} {exponent : Int} {r : Rounding}

/-! ## Decimals as ratios -/

namespace Decimal

def numerator (d : Decimal) : Nat := d.digits * tenTo d.exponent.toNat

def denominator (d : Decimal) : Nat := tenTo (-d.exponent).toNat

end Decimal

theorem tenTo_add (first second : Nat) :
    tenTo (first + second) = tenTo first * tenTo second := Nat.pow_add 10 first second

theorem tenTo_pos (places : Nat) : 0 < tenTo places := Nat.pow_pos (by decide)

theorem quarter_pos : 0 < quarter := twoTo_pos 1076

theorem Decimal.denominator_pos (d : Decimal) : 0 < d.denominator := tenTo_pos _

/-- Only the ratio counts. -/
theorem Rounding.Contains.congr {num' den' : Nat} (h : r.Contains num den)
    (hratio : num * den' = num' * den) (hden : 0 < den) (hden' : 0 < den') :
    r.Contains num' den' := by
  have hscale (bound : Nat) : bound * den * den' = bound * den' * den := by ring
  have hcross : num * quarter * den' = num' * quarter * den := by
    rw [Nat.mul_right_comm, hratio, Nat.mul_right_comm]
  refine ⟨?_, ?_, fun hopen ↦ ⟨?_, ?_⟩⟩
  · refine Nat.le_of_mul_le_mul_right ?_ hden
    rw [← hscale, ← hcross]
    exact Nat.mul_le_mul_right den' h.low
  · refine Nat.le_of_mul_le_mul_right ?_ hden
    rw [← hscale, ← hcross]
    exact Nat.mul_le_mul_right den' h.high
  · refine Nat.lt_of_mul_lt_mul_right (a := den) ?_
    rw [← hscale, ← hcross]
    exact Nat.mul_lt_mul_of_pos_right (h.inside hopen).1 hden'
  · refine Nat.lt_of_mul_lt_mul_right (a := den) ?_
    rw [← hscale, ← hcross]
    exact Nat.mul_lt_mul_of_pos_right (h.inside hopen).2 hden'

/-! ## One grid -/

theorem within_iff {digits : Nat} :
    (if r.closed then
        r.low * tenTo (-exponent).toNat ≤ digits * (quarter * tenTo exponent.toNat) &&
          digits * (quarter * tenTo exponent.toNat) ≤ r.high * tenTo (-exponent).toNat
      else
        r.low * tenTo (-exponent).toNat < digits * (quarter * tenTo exponent.toNat) &&
          digits * (quarter * tenTo exponent.toNat) < r.high * tenTo (-exponent).toNat) = true ↔
      r.Contains (Decimal.numerator ⟨digits, exponent⟩)
        (Decimal.denominator ⟨digits, exponent⟩) := by
  have hnum : digits * (quarter * tenTo exponent.toNat) =
      digits * tenTo exponent.toNat * quarter := by ring
  unfold Decimal.numerator Decimal.denominator
  rw [hnum]
  constructor
  · intro h
    split at h
    · next hclosed =>
      obtain ⟨hlow, hhigh⟩ := Bool.and_eq_true_iff.1 h
      exact ⟨of_decide_eq_true hlow, of_decide_eq_true hhigh, fun hopen ↦
        absurd (hclosed.symm.trans hopen) (by decide)⟩
    · obtain ⟨hlow, hhigh⟩ := Bool.and_eq_true_iff.1 h
      have hlow := of_decide_eq_true hlow
      have hhigh := of_decide_eq_true hhigh
      exact ⟨Nat.le_of_lt hlow, Nat.le_of_lt hhigh, fun _ ↦ ⟨hlow, hhigh⟩⟩
  · rintro ⟨hlow, hhigh, hinside⟩
    split
    · simpa using ⟨hlow, hhigh⟩
    · next hclosed => simpa using hinside (by simpa using hclosed)

theorem onGrid_contains {tie : Tie} {d : Decimal} (h : onGrid tie r exponent = some d) :
    r.Contains d.numerator d.denominator := by
  unfold onGrid at h
  extract_lets step refine centre within lower upper at h
  have hwithin {digits : Nat} (hdigits : within digits = true) :
      r.Contains (Decimal.numerator ⟨digits, exponent⟩) (Decimal.denominator ⟨digits, exponent⟩) :=
    within_iff.1 hdigits
  split at h
  · next hupper =>
    obtain rfl := Option.some.inj h
    exact hwithin (Bool.and_eq_true_iff.1 hupper).1
  · split at h
    · next hlower =>
      obtain rfl := Option.some.inj h
      exact hwithin hlower
    · cases h

/-- A grid whose steps are smaller than the interval has a point in it. -/
theorem onGrid_isSome (tie : Tie) (hlow : r.low < r.centre) (hhigh : r.centre < r.high)
    (hwide : r.low * tenTo (-exponent).toNat + quarter * tenTo exponent.toNat <
      r.high * tenTo (-exponent).toNat) : (onGrid tie r exponent).isSome = true := by
  unfold onGrid
  extract_lets step refine centre within lower upper
  have hstep : 0 < step := Nat.mul_pos quarter_pos (tenTo_pos _)
  have hbelow : r.low * refine < centre := Nat.mul_lt_mul_of_pos_right hlow (tenTo_pos _)
  have habove : centre < r.high * refine := Nat.mul_lt_mul_of_pos_right hhigh (tenTo_pos _)
  have hlower : lower * step ≤ centre := Nat.div_mul_le_self centre step
  have hupper : centre < upper * step := (Nat.div_lt_iff_lt_mul hstep).1 (Nat.lt_succ_self lower)
  have hnext : upper * step = lower * step + step := Nat.succ_mul lower step
  have hwide : r.low * refine + step < r.high * refine := hwide
  -- If both neighbours are outside, the interval is between them.
  have hsome : within lower = true ∨ within upper = true := by
    cases hclosed : r.closed with
    | true =>
      simp only [within, hclosed, if_true, Bool.and_eq_true, decide_eq_true_eq]
      omega
    | false =>
      simp only [within, hclosed, Bool.false_eq_true, if_false, Bool.and_eq_true, decide_eq_true_eq]
      omega
  cases hnear : within lower with
  | true =>
    split
    · rfl
    · rfl
  | false =>
    have hfar : within upper = true := hsome.resolve_left (by simp [hnear])
    rw [hfar]
    rfl

/-! ## The leading digit -/

/-- No number is less than the power of ten of its leading digit. -/
theorem tenTo_leadingExponent_le (hnum : 0 < num) (hden : 0 < den) :
    den * tenTo (leadingExponent num den).toNat ≤ num * tenTo (-leadingExponent num den).toNat := by
  unfold leadingExponent
  split
  · next hle =>
    have hquotient : 0 < num / den := Nat.div_pos hle hden
    have hplaces : 0 < (natText (num / den)).length :=
      List.length_pos_iff.2 (Number.natText_ne_nil _)
    have hleading := Number.tenTo_length_natText_le hquotient
    have htoNat : (((natText (num / den)).length : Int) - 1).toNat =
        (natText (num / den)).length - 1 := by omega
    have hneg : (-(((natText (num / den)).length : Int) - 1)).toNat = 0 := by omega
    rw [htoNat, hneg]
    calc
      den * tenTo ((natText (num / den)).length - 1) ≤ den * (num / den) :=
        Nat.mul_le_mul_left den hleading
      _ ≤ num * tenTo 0 := (Nat.mul_div_le num den).trans_eq (Nat.mul_one num).symm
  · extract_lets places
    have hplaces : 0 < places := List.length_pos_iff.2 (Number.natText_ne_nil _)
    split
    · next hle =>
      have htoNat : (1 - (places : Int)).toNat = 0 := by omega
      have hneg : (-(1 - (places : Int))).toNat = places - 1 := by omega
      rw [htoNat, hneg]
      exact (Nat.mul_one den).trans_le hle
    · have htoNat : (-(places : Int)).toNat = 0 := by omega
      have hneg : (-(-(places : Int))).toNat = places := by omega
      have hlt : den < tenTo places * num :=
        (Nat.div_lt_iff_lt_mul hnum).1 (Number.lt_tenTo_length_natText _)
      rw [htoNat, hneg, Nat.mul_comm num]
      exact (Nat.mul_one den).trans_le (Nat.le_of_lt hlt)

/-- Some places below the leading digit there are that many digits of steps. -/
theorem tenTo_mul_step_le {top : Int} (h : den * tenTo top.toNat ≤ num * tenTo (-top).toNat)
    (places : Nat) :
    tenTo places * (den * tenTo (top - places).toNat) ≤ num * tenTo (-(top - places)).toNat := by
  have hplaces : places + (top - places).toNat + (-top).toNat =
      top.toNat + (-(top - places)).toNat := by omega
  have hscale : tenTo places * tenTo (top - places).toNat * tenTo (-top).toNat =
      tenTo top.toNat * tenTo (-(top - places)).toNat := by
    rw [← tenTo_add, ← tenTo_add, ← tenTo_add, hplaces]
  refine Nat.le_of_mul_le_mul_right ?_ (tenTo_pos (-top).toNat)
  calc
    tenTo places * (den * tenTo (top - places).toNat) * tenTo (-top).toNat =
        den * (tenTo places * tenTo (top - places).toNat * tenTo (-top).toNat) := by ring
    _ = den * tenTo top.toNat * tenTo (-(top - places)).toNat := by rw [hscale, Nat.mul_assoc]
    _ ≤ num * tenTo (-top).toNat * tenTo (-(top - places)).toNat := Nat.mul_le_mul_right _ h
    _ = num * tenTo (-(top - places)).toNat * tenTo (-top).toNat := Nat.mul_right_comm _ _ _

/-! ## The shortest decimal -/

/-- How far the interval goes below the number, in fourths of a step.  The number itself is less
than `10 ^ 16` times as long as its interval. -/
theorem exists_low_eq (hsome : 0 < significand) (hbound : significand < 2 ^ 53) :
    ∃ below, 0 < below ∧ below ≤ 2 ∧ 4 * significand < tenTo 16 * (2 + below) ∧
      (rounding significand shift).low = (4 * significand - below) * twoTo shift := by
  have hten : tenTo 16 = 10 ^ 16 := rfl
  have htwo : twoTo 52 = 2 ^ 52 := rfl
  rw [hten]
  unfold rounding
  dsimp only
  split
  · next hpower =>
    have hpower : significand = twoTo 52 := by
      simpa using (Bool.and_eq_true_iff.1 hpower).1
    exact ⟨1, by omega, by omega, by omega, rfl⟩
  · exact ⟨2, by omega, by omega, by omega, rfl⟩

/-- With seventeen digits the steps are smaller than the rounding interval. -/
theorem onGrid_seventeen_isSome (tie : Tie) (hsome : 0 < significand)
    (hbound : significand < 2 ^ 53) :
    let r := rounding significand shift
    (onGrid tie r (leadingExponent r.centre quarter - (16 : Nat))).isSome = true := by
  intro r
  have hcentre : 0 < r.centre := Nat.mul_pos (by omega) (twoTo_pos shift)
  have hsteps := tenTo_mul_step_le (tenTo_leadingExponent_le hcentre quarter_pos) 16
  generalize leadingExponent r.centre quarter - (16 : Nat) = exponent at hsteps ⊢
  obtain ⟨below, hpos, hle, hten, hlow⟩ := exists_low_eq hsome hbound
  have hcentreEq : r.centre = 4 * significand * twoTo shift := rfl
  have hhigh : r.high = (4 * significand + 2) * twoTo shift := rfl
  apply onGrid_isSome
  · rw [hlow, hcentreEq]
    exact Nat.mul_lt_mul_of_pos_right (by omega) (twoTo_pos shift)
  · rw [hhigh, hcentreEq]
    exact Nat.mul_lt_mul_of_pos_right (by omega) (twoTo_pos shift)
  · rw [hcentreEq] at hsteps
    rw [hlow, hhigh]
    generalize quarter * tenTo exponent.toNat = step at *
    have hunit : 0 < twoTo shift * tenTo (-exponent).toNat :=
      Nat.mul_pos (twoTo_pos _) (tenTo_pos _)
    simp only [Nat.mul_assoc] at hsteps ⊢
    generalize twoTo shift * tenTo (-exponent).toNat = unit at *
    have hstep : step < (2 + below) * unit := by
      by_contra hlarge
      have hwide : tenTo 16 * (2 + below) * unit ≤ 4 * significand * unit := by
        calc
          tenTo 16 * (2 + below) * unit = tenTo 16 * ((2 + below) * unit) := Nat.mul_assoc _ _ _
          _ ≤ tenTo 16 * step := Nat.mul_le_mul_left _ (Nat.le_of_not_lt hlarge)
          _ ≤ 4 * (significand * unit) := hsteps
          _ = 4 * significand * unit := (Nat.mul_assoc _ _ _).symm
      exact absurd (Nat.le_of_mul_le_mul_right hwide hunit) (Nat.not_le_of_lt hten)
    calc
      (4 * significand - below) * unit + step <
          (4 * significand - below) * unit + (2 + below) * unit := Nat.add_lt_add_left hstep _
      _ = (4 * significand - below + (2 + below)) * unit := (Nat.add_mul _ _ _).symm
      _ = (4 * significand + 2) * unit := by
        congr 1
        omega

theorem shortest_contains (tie : Tie) (hsome : 0 < significand) (hbound : significand < 2 ^ 53) :
    (rounding significand shift).Contains (shortest tie significand shift).numerator
      (shortest tie significand shift).denominator := by
  unfold shortest
  extract_lets r top
  have hgrid : ((List.range 17).findSome? fun (places : Nat) ↦ onGrid tie r (top - places)).isSome =
      true := by
    rw [List.findSome?_isSome_iff]
    exact ⟨16, by simp, onGrid_seventeen_isSome tie hsome hbound⟩
  obtain ⟨d, hd⟩ := Option.isSome_iff_exists.1 hgrid
  obtain ⟨places, -, hfound⟩ := List.exists_of_findSome?_eq_some hd
  rw [hd]
  exact onGrid_contains hfound

end InventoryQuery.Binary64
