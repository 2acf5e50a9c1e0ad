import InventoryQuery.Proofs.Number.Digits
import InventoryQuery.Proofs.Number.Rounding

/-!
# Rounding keeps the order

Rounding to the nearest number never turns the order of two numbers around, and leaves alone what is
a number of the format already.  So a number and what another one is rounded to stand in the order
of the two, unless they have become equal.
-/

namespace InventoryQuery.Binary64

open Number (signed twoTo)

variable {significand shift num num' den n n' : Nat}

/-- What a number is rounded to, both counted in multiples of the least positive one. -/
def nearest (n : Nat) : Nat := roundQuotient n (twoTo (shiftFor n)) * twoTo (shiftFor n)

/-! ## Quotients -/

theorem roundQuotient_mono (h : num ≤ num') :
    roundQuotient num den ≤ roundQuotient num' den := by
  have hdivMod : den * (num / den) + num % den = num := Nat.div_add_mod num den
  have hdivMod' : den * (num' / den) + num' % den = num' := Nat.div_add_mod num' den
  have hquotient : num / den ≤ num' / den := Nat.div_le_div_right h
  unfold roundQuotient
  dsimp only
  rcases Nat.lt_or_ge (num / den) (num' / den) with hless | hsame
  · split
    · split <;> omega
    · split <;> omega
  · have hequal : num / den = num' / den := Nat.le_antisymm hquotient hsame
    rw [hequal] at hdivMod ⊢
    simp only [Bool.or_eq_true, Bool.and_eq_true, decide_eq_true_eq, beq_iff_eq]
    split
    · split <;> omega
    · split <;> omega

theorem roundQuotient_mul (hden : 0 < den) (q : Nat) : roundQuotient (q * den) den = q := by
  simp [roundQuotient, hden]

/-! ## Binades -/

theorem twoTo_le_twoTo (h : num ≤ num') : twoTo num ≤ twoTo num' :=
  Nat.pow_le_pow_right (by decide) h

theorem lt_twoTo_shiftFor (n : Nat) : n < twoTo (53 + shiftFor n) := by
  have hbits : n < twoTo (n.log2 + 1) := Nat.lt_log2_self
  exact Nat.lt_of_lt_of_le hbits (twoTo_le_twoTo (by unfold shiftFor; omega))

theorem twoTo_shiftFor_le (h : shiftFor n ≠ 0) : twoTo (52 + shiftFor n) ≤ n := by
  have hsome : n ≠ 0 := by
    rintro rfl
    exact h rfl
  have hbits : 52 + shiftFor n = n.log2 := by
    unfold shiftFor at h ⊢
    omega
  rw [hbits]
  exact Nat.log2_self_le hsome

theorem shiftFor_mono (h : n ≤ n') : shiftFor n ≤ shiftFor n' := by
  by_contra hless
  have hlow := twoTo_shiftFor_le (n := n) (by omega)
  have hhigh := lt_twoTo_shiftFor n'
  have hpower : twoTo (53 + shiftFor n') ≤ twoTo (52 + shiftFor n) := twoTo_le_twoTo (by omega)
  omega

theorem roundQuotient_shiftFor_le (n : Nat) :
    roundQuotient n (twoTo (shiftFor n)) ≤ twoTo 53 := by
  rw [← roundQuotient_mul (twoTo_pos (shiftFor n)) (twoTo 53), ← twoTo_add]
  exact roundQuotient_mono (Nat.le_of_lt (lt_twoTo_shiftFor n))

theorem le_roundQuotient_shiftFor (h : shiftFor n ≠ 0) :
    twoTo 52 ≤ roundQuotient n (twoTo (shiftFor n)) := by
  rw [← roundQuotient_mul (twoTo_pos (shiftFor n)) (twoTo 52), ← twoTo_add]
  exact roundQuotient_mono (twoTo_shiftFor_le h)

/-! ## The nearest number -/

theorem nearest_mono (h : n ≤ n') : nearest n ≤ nearest n' := by
  unfold nearest
  rcases Nat.lt_or_ge (shiftFor n) (shiftFor n') with hless | hsame
  · calc
      roundQuotient n (twoTo (shiftFor n)) * twoTo (shiftFor n) ≤
          twoTo 53 * twoTo (shiftFor n) := Nat.mul_le_mul_right _ (roundQuotient_shiftFor_le n)
      _ ≤ twoTo 52 * twoTo (shiftFor n') := by
        rw [← twoTo_add, ← twoTo_add]
        exact twoTo_le_twoTo (by omega)
      _ ≤ _ := Nat.mul_le_mul_right _ (le_roundQuotient_shiftFor (by omega))
  · rw [Nat.le_antisymm (shiftFor_mono h) hsame]
    exact Nat.mul_le_mul_right _ (roundQuotient_mono h)

/-- A number with 53 bits or fewer before its zeros is the nearest to itself. -/
theorem nearest_mul_twoTo (h : significand < twoTo 53) (shift : Nat) :
    nearest (significand * twoTo shift) = significand * twoTo shift := by
  have hle : shiftFor (significand * twoTo shift) ≤ shift := by
    by_contra hless
    have hlow := twoTo_shiftFor_le (n := significand * twoTo shift) (by omega)
    have hhigh : significand * twoTo shift < twoTo (53 + shift) := by
      rw [twoTo_add]
      exact Nat.mul_lt_mul_of_pos_right h (twoTo_pos shift)
    have hpower : twoTo (53 + shift) ≤ twoTo (52 + shiftFor (significand * twoTo shift)) :=
      twoTo_le_twoTo (by omega)
    omega
  obtain ⟨zeros, hzeros⟩ := Nat.exists_eq_add_of_le hle
  unfold nearest
  generalize shiftFor (significand * twoTo shift) = least at *
  rw [hzeros, Nat.add_comm, twoTo_add, ← Nat.mul_assoc, roundQuotient_mul (twoTo_pos least)]

/-! ## Positions -/

/-- What an integer number of multiples is rounded to. -/
def nearestInt (z : Int) : Int := signed (z < 0) (nearest z.natAbs)

theorem nearestInt_mono {y z : Int} (h : y ≤ z) : nearestInt y ≤ nearestInt z := by
  unfold nearestInt
  by_cases hy : y < 0
  · by_cases hz : z < 0
    · have hle : nearest z.natAbs ≤ nearest y.natAbs := nearest_mono (by omega)
      simp [signed, hy, hz, hle]
    · simp [signed, hy, hz]
  · have hz : ¬z < 0 := by omega
    have hle : nearest y.natAbs ≤ nearest z.natAbs := nearest_mono (by omega)
    simp [signed, hy, hz, hle]

theorem nearestInt_eq_self {z : Int} (h : nearest z.natAbs = z.natAbs) : nearestInt z = z := by
  rw [nearestInt, h, Number.signed_natAbs]

theorem natAbs_signed (negative : Bool) (n : Nat) : (signed negative n).natAbs = n := by
  cases negative with
  | false => exact Int.natAbs_natCast n
  | true => exact (Int.natAbs_neg n).trans (Int.natAbs_natCast n)

/-- A number of the format stands where it is rounded to, and an infinity too. -/
theorem nearestInt_of_position {x : Binary64} {place : Int} (h : x.position = some place) :
    nearestInt place = place := by
  cases x with
  | nan => cases h
  | infinity negative =>
    obtain rfl := Option.some.inj h
    have hpower : twoTo 53 * twoTo 2045 = twoTo 52 * twoTo 2046 := by
      rw [← twoTo_add, ← twoTo_add]
    apply nearestInt_eq_self
    rw [natAbs_signed, hpower]
    exact nearest_mul_twoTo (by decide) 2046
  | finite negative significand shift hcanonical =>
    obtain rfl := Option.some.inj h
    apply nearestInt_eq_self
    rw [natAbs_signed]
    exact nearest_mul_twoTo hcanonical.1 shift

/-- Integers of 53 bits are numbers of the format. -/
theorem nearestInt_of_natAbs_le {i : Int} (h : i.natAbs ≤ twoTo 53) :
    nearestInt (i * twoTo 1074) = i * twoTo 1074 := by
  apply nearestInt_eq_self
  rw [Int.natAbs_mul, Int.natAbs_natCast]
  rcases Nat.lt_or_eq_of_le h with hless | hmost
  · exact nearest_mul_twoTo hless 1074
  · have hpower : twoTo 53 * twoTo 1074 = twoTo 52 * twoTo 1075 := by
      rw [← twoTo_add, ← twoTo_add]
    rw [hmost, hpower]
    exact nearest_mul_twoTo (by decide) 1075

/-- An integer of 64 bits is far inside the range of the format. -/
theorem position_ofRatio_one (h : num ≤ twoTo 63) (negative : Bool) :
    (ofRatio negative num 1).position = some (signed negative (nearest (num * twoTo 1074))) := by
  have hrange : shiftFor (num * twoTo 1074) ≤ 1085 := by
    have hmost : shiftFor (twoTo 63 * twoTo 1074) = 1085 := by decide +kernel
    rw [← hmost]
    exact shiftFor_mono (Nat.mul_le_mul_right _ h)
  have hle := roundQuotient_shiftFor_le (num * twoTo 1074)
  have hge := fun hsome ↦ le_roundQuotient_shiftFor (n := num * twoTo 1074) hsome
  unfold ofRatio nearest
  simp only [Nat.div_one, Nat.one_mul]
  generalize shiftFor (num * twoTo 1074) = shift at *
  generalize roundQuotient (num * twoTo 1074) (twoTo shift) = significand at *
  split
  · next heq =>
    obtain rfl : significand = twoTo 53 := beq_iff_eq.1 heq
    have hcanonical : IsCanonical (twoTo 52) (shift + 1) :=
      ⟨by decide, by omega, .inl (Nat.le_refl _)⟩
    have hpower : twoTo 52 * twoTo (shift + 1) = twoTo 53 * twoTo shift := by
      have hbits : 52 + (shift + 1) = 53 + shift := by omega
      rw [← twoTo_add, ← twoTo_add, hbits]
    rw [ofForm_eq_finite hcanonical, position, hpower]
  · next hne =>
    have hcanonical : IsCanonical significand shift := by
      refine ⟨Nat.lt_of_le_of_ne hle (by simpa using hne), by omega, ?_⟩
      by_cases hzero : shift = 0
      · exact .inr hzero
      · exact .inl (hge hzero)
    rw [ofForm_eq_finite hcanonical, position]

theorem position_ofInt {i : Int} (h : i.natAbs ≤ twoTo 63) :
    (ofInt i).position = some (nearestInt (i * twoTo 1074)) := by
  have hpos : (0 : Int) < twoTo 1074 := Int.natCast_pos.2 (twoTo_pos 1074)
  have hsign : (i * twoTo 1074 < 0) = (i < 0) := by
    rw [← Int.not_le, ← Int.not_le, Int.mul_nonneg_iff_of_pos_right hpos]
  rw [ofInt, position_ofRatio_one h, nearestInt, Int.natAbs_mul, Int.natAbs_natCast]
  simp only [hsign]

end InventoryQuery.Binary64
