import InventoryQuery.Number.Shortest
import Mathlib.Tactic.Ring

/-!
# What rounds to a number

Every ratio in the rounding interval of a number is rounded to that number.  Half a step below a
power of two the steps are halves, and what is nearest to the power there is rounded up to it from
the binade below.
-/

namespace InventoryQuery.Binary64

open Number (twoTo)

variable {significand shift num den : Nat}

/-- A ratio lies in the interval, and at one of its ends only if that is a part of it. -/
structure Rounding.Contains (r : Rounding) (num den : Nat) : Prop where
  low : r.low * den ≤ num * quarter
  high : num * quarter ≤ r.high * den
  inside : r.closed = false → r.low * den < num * quarter ∧ num * quarter < r.high * den

/-! ## Quotients -/

/-- What is at most half a denominator away from a multiple of it, and less for an odd multiple, is
rounded to that. -/
theorem roundQuotient_eq {q : Nat} (hden : 0 < den) (hlow : 2 * (q * den) ≤ 2 * num + den)
    (hhigh : 2 * num ≤ 2 * (q * den) + den)
    (htie : q % 2 = 1 → 2 * (q * den) < 2 * num + den ∧ 2 * num < 2 * (q * den) + den) :
    roundQuotient num den = q := by
  have hdivMod : num / den * den + num % den = num := Nat.div_add_mod' num den
  have hmod : num % den < den := Nat.mod_lt num hden
  unfold roundQuotient
  dsimp only
  generalize num % den = remainder at *
  generalize num / den = quotient at *
  have hsucc (n : Nat) : (n + 1) * den = n * den + den := Nat.succ_mul n den
  -- The quotient is the integer itself or the one below it.
  have hle : quotient ≤ q := by
    by_contra hlt
    have hmul : (q + 1) * den ≤ quotient * den := Nat.mul_le_mul_right den (by omega)
    rw [hsucc] at hmul
    omega
  have hge : q ≤ quotient + 1 := by
    by_contra hlt
    have hmul : (quotient + 1 + 1) * den ≤ q * den := Nat.mul_le_mul_right den (by omega)
    rw [hsucc, hsucc] at hmul
    omega
  rcases Nat.lt_or_ge quotient q with hbelow | habove
  · obtain rfl : q = quotient + 1 := by omega
    rw [hsucc] at hlow hhigh htie
    rw [if_neg]
    simp only [Bool.or_eq_true, Bool.and_eq_true, decide_eq_true_eq, beq_iff_eq]
    omega
  · obtain rfl : quotient = q := Nat.le_antisymm hle habove
    rw [if_pos]
    simp only [Bool.or_eq_true, Bool.and_eq_true, decide_eq_true_eq, beq_iff_eq]
    omega

/-! ## Shifts -/

theorem shiftFor_eq_zero {multiples : Nat} (h : multiples < 2 ^ 53) : shiftFor multiples = 0 := by
  unfold shiftFor
  by_cases hzero : multiples = 0
  · rw [hzero]
    rfl
  · have hlog := (Nat.log2_lt hzero).2 h
    omega

theorem shiftFor_eq {multiples : Nat} (hlow : 2 ^ (52 + shift) ≤ multiples)
    (hhigh : multiples < 2 ^ (53 + shift)) : shiftFor multiples = shift := by
  have hpos : multiples ≠ 0 := by
    have htwo : 0 < 2 ^ (52 + shift) := Nat.two_pow_pos _
    omega
  have hlog := (Nat.log2_lt hpos).2 hhigh
  have hlog' := (Nat.le_log2 hpos).2 hlow
  unfold shiftFor
  omega

/-- The shift of a ratio whose integer part has 53 bits before it is shifted. -/
theorem shiftFor_div_eq {scaled : Nat} (hden : 0 < den)
    (hlow : 2 ^ 52 * (den * twoTo shift) ≤ scaled) (hhigh : scaled < 2 ^ 53 * (den * twoTo shift)) :
    shiftFor (scaled / den) = shift := by
  have hplace (bits : Nat) : 2 ^ bits * (den * twoTo shift) = 2 ^ (bits + shift) * den := by
    rw [twoTo, Nat.pow_eq, pow_add]
    ring
  rw [hplace] at hlow hhigh
  exact shiftFor_eq ((Nat.le_div_iff_mul_le hden).2 hlow) ((Nat.div_lt_iff_lt_mul hden).2 hhigh)

theorem ofForm_eq_finite (h : IsCanonical significand shift) (negative : Bool) :
    ofForm negative significand shift = .finite negative significand shift h := dif_pos h

/-! ## Ratios -/

theorem twoTo_add (first second : Nat) :
    twoTo (first + second) = twoTo first * twoTo second := Nat.pow_add 2 first second

theorem twoTo_pos (exponent : Nat) : 0 < twoTo exponent := Nat.two_pow_pos exponent

theorem twoTo_succ (exponent : Nat) : twoTo (exponent + 1) = 2 * twoTo exponent :=
  Nat.pow_succ'

theorem quarter_eq : quarter = 4 * twoTo 1074 := by
  have hfour : 4 = twoTo 2 := rfl
  rw [quarter, hfour, ← twoTo_add]

/-- What is rounded to a number has its shift, and its significand is the nearest integer. -/
theorem ofRatio_eq_finite {negative : Bool} {scaled : Nat} (hscaled : num * twoTo 1074 = scaled)
    (hcanonical : IsCanonical significand shift) (hshift : shiftFor (scaled / den) = shift)
    (hsignificand : roundQuotient scaled (den * twoTo shift) = significand) :
    ofRatio negative num den = .finite negative significand shift hcanonical := by
  have hne : significand ≠ twoTo 53 := Nat.ne_of_lt hcanonical.1
  unfold ofRatio
  simp only [hscaled, hshift, hsignificand, beq_eq_false_iff_ne.2 hne, Bool.false_eq_true, if_false]
  exact ofForm_eq_finite hcanonical negative

/-- Just below a power of two the significand is rounded up to 53 bits and one more. -/
theorem ofRatio_eq_power {negative : Bool} {scaled : Nat} (hscaled : num * twoTo 1074 = scaled)
    (hcanonical : IsCanonical (twoTo 52) (shift + 1)) (hshift : shiftFor (scaled / den) = shift)
    (hsignificand : roundQuotient scaled (den * twoTo shift) = 2 ^ 53) :
    ofRatio negative num den = .finite negative (twoTo 52) (shift + 1) hcanonical := by
  have hpower : (2 ^ 53 == twoTo 53) = true := rfl
  unfold ofRatio
  simp only [hscaled, hshift, hsignificand, hpower, if_true]
  exact ofForm_eq_finite hcanonical negative

/-- The ends of a rounding interval as multiples of the step of the number. -/
theorem Rounding.Contains.bounds (h : (rounding significand shift).Contains num den)
    (hsome : 0 < significand) :
    let scaled := num * twoTo 1074
    let step := den * twoTo shift
    let below := if significand = 2 ^ 52 ∧ shift ≠ 0 then 1 else 2
    4 * (significand * step) ≤ 4 * scaled + below * step ∧
      4 * scaled ≤ 4 * (significand * step) + 2 * step ∧
      (significand % 2 = 1 → 4 * (significand * step) < 4 * scaled + below * step ∧
        4 * scaled < 4 * (significand * step) + 2 * step) := by
  intro scaled step below
  have hscaled : num * quarter = 4 * scaled := by
    rw [quarter_eq]
    ring
  have hbelow : (if significand == twoTo 52 && shift != 0 then 1 else 2) = below := by
    simp only [below, Bool.and_eq_true, beq_iff_eq, bne_iff_ne]
    rfl
  have hlow : (4 * significand - below) * twoTo shift * den + below * step =
      4 * (significand * step) := by
    have hle : below ≤ 4 * significand := by
      simp only [below]
      split <;> omega
    calc
      (4 * significand - below) * twoTo shift * den + below * step =
          (4 * significand - below + below) * step := by ring
      _ = 4 * (significand * step) := by
        rw [Nat.sub_add_cancel hle]
        ring
  have hhigh : (4 * significand + 2) * twoTo shift * den = 4 * (significand * step) + 2 * step := by
    ring
  obtain ⟨hbegin, hend, hinside⟩ := h
  simp only [rounding, hbelow, hscaled, hhigh] at hbegin hend hinside
  refine ⟨by omega, hend, fun hodd ↦ ?_⟩
  obtain ⟨hafter, hbefore⟩ := hinside (by simp [hodd])
  exact ⟨by omega, hbefore⟩

theorem ofRatio_of_contains {negative : Bool} (hcanonical : IsCanonical significand shift)
    (hsome : 0 < significand) (hden : 0 < den) (h : (rounding significand shift).Contains num den) :
    ofRatio negative num den = .finite negative significand shift hcanonical := by
  have hstep : 0 < den * twoTo shift := Nat.mul_pos hden (twoTo_pos shift)
  have hmost : significand * (den * twoTo shift) ≤ (2 ^ 53 - 1) * (den * twoTo shift) :=
    Nat.mul_le_mul_right _ (Nat.le_sub_one_of_lt hcanonical.1)
  obtain ⟨hlow, hhigh, htie⟩ := h.bounds hsome
  generalize hscaled : num * twoTo 1074 = scaled at *
  have hupper : scaled < 2 ^ 53 * (den * twoTo shift) := by omega
  by_cases hpower : significand = 2 ^ 52 ∧ shift ≠ 0
  · rw [if_pos hpower] at hlow htie
    obtain ⟨hsignificand, hshift⟩ := hpower
    subst hsignificand
    rcases Nat.lt_or_ge scaled (2 ^ 52 * (den * twoTo shift)) with hbelow | habove
    · obtain ⟨smaller, rfl⟩ : ∃ smaller, shift = smaller + 1 :=
        Nat.exists_eq_succ_of_ne_zero hshift
      have hhalf : den * twoTo (smaller + 1) = 2 * (den * twoTo smaller) := by
        rw [twoTo_succ]
        ring
      rw [hhalf] at hlow hbelow
      have hhalfPos : 0 < den * twoTo smaller := Nat.mul_pos hden (twoTo_pos smaller)
      exact ofRatio_eq_power hscaled hcanonical (shiftFor_div_eq hden (by omega) (by omega))
        (roundQuotient_eq hhalfPos (by omega) (by omega) fun hodd ↦ absurd hodd (by decide))
    · exact ofRatio_eq_finite hscaled hcanonical (shiftFor_div_eq hden habove hupper)
        (roundQuotient_eq hstep (by omega) (by omega) fun hodd ↦ absurd hodd (by decide))
  · rw [if_neg hpower] at hlow htie
    refine ofRatio_eq_finite hscaled hcanonical ?_
      (roundQuotient_eq hstep (by omega) (by omega) fun hodd ↦ ?_)
    · by_cases hzero : shift = 0
      · subst hzero
        apply shiftFor_eq_zero
        rw [Nat.div_lt_iff_lt_mul hden]
        simpa [twoTo] using hupper
      · have hleast : (2 ^ 52 + 1) * (den * twoTo shift) ≤ significand * (den * twoTo shift) := by
          apply Nat.mul_le_mul_right
          have hleast := hcanonical.2.2.resolve_right hzero
          have hne : significand ≠ 2 ^ 52 := fun heq ↦ hpower ⟨heq, hzero⟩
          exact Nat.lt_of_le_of_ne hleast (Ne.symm hne)
        exact shiftFor_div_eq hden (by omega) hupper
    · have hinside := htie hodd
      omega

end InventoryQuery.Binary64
