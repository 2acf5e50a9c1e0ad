import InventoryQuery.Proofs.Number.Shortest
import Mathlib.Data.List.TakeWhile

/-!
# Numbers that are read back

The text of a number is read as that number.  It is a decimal in positional form, whose digits and
places make up a ratio in the rounding interval of the number.
-/

namespace InventoryQuery.Binary64

open Number (natText twoTo tenTo ofDigits marked readInteger readUnsigned readBinary64 readExponent)

variable {significand shift : Nat} {negative : Bool} {exponent : Int} {digits : List Char}

/-! ## Significant digits -/

/-- The zeros at the end of a number are as good as places after it. -/
theorem Rounding.Contains.trailing {r : Rounding} {n zeros : Nat}
    (h : r.Contains (Decimal.numerator ⟨n * tenTo zeros, exponent⟩)
      (Decimal.denominator ⟨n * tenTo zeros, exponent⟩)) :
    r.Contains (Decimal.numerator ⟨n, exponent + zeros⟩)
      (Decimal.denominator ⟨n, exponent + zeros⟩) := by
  refine h.congr ?_ (Decimal.denominator_pos _) (Decimal.denominator_pos _)
  have hplaces : zeros + exponent.toNat + (-(exponent + zeros)).toNat =
      (exponent + zeros).toNat + (-exponent).toNat := by omega
  unfold Decimal.numerator Decimal.denominator
  calc
    n * tenTo zeros * tenTo exponent.toNat * tenTo (-(exponent + zeros)).toNat =
        n * tenTo (zeros + exponent.toNat + (-(exponent + zeros)).toNat) := by
      rw [tenTo_add, tenTo_add]
      ring
    _ = n * tenTo (exponent + zeros).toNat * tenTo (-exponent).toNat := by
      rw [hplaces, tenTo_add, Nat.mul_assoc]

theorem significantDigits_spec (d : Decimal) :
    ∃ zeros : Nat, natText d.digits = (significantDigits d).1 ++ List.replicate zeros '0' ∧
      (significantDigits d).2 = d.exponent + zeros := by
  unfold significantDigits
  extract_lets digits trailing
  have hzeros : digits.reverse.takeWhile (· == '0') = List.replicate trailing '0' := by
    refine List.eq_replicate_iff.2 ⟨rfl, fun c hc ↦ ?_⟩
    simpa using List.mem_takeWhile_imp hc
  obtain ⟨kept, hkept⟩ : ∃ kept, digits = kept ++ List.replicate trailing '0' := by
    refine ⟨(digits.reverse.dropWhile (· == '0')).reverse, ?_⟩
    calc
      digits = (digits.reverse.takeWhile (· == '0') ++
          digits.reverse.dropWhile (· == '0')).reverse := by
        rw [List.takeWhile_append_dropWhile, List.reverse_reverse]
      _ = _ := by rw [hzeros, List.reverse_append, List.reverse_replicate]
  have htake : digits.take (digits.length - trailing) = kept := by simp [hkept]
  refine ⟨trailing, ?_, rfl⟩
  rw [htake]
  exact hkept

/-- Something is written for a ratio in a rounding interval. -/
theorem digits_pos_of_contains (hsome : 0 < significand) {d : Decimal}
    (h : (rounding significand shift).Contains d.numerator d.denominator) : 0 < d.digits := by
  by_contra hzero
  have hnumerator : d.numerator = 0 := by
    rw [Decimal.numerator, Nat.eq_zero_of_not_pos hzero, Nat.zero_mul]
  have hlow := h.low
  rw [hnumerator, Nat.zero_mul] at hlow
  have hpos : 0 < (rounding significand shift).low * d.denominator := by
    refine Nat.mul_pos (Nat.mul_pos ?_ (twoTo_pos shift)) d.denominator_pos
    split <;> omega
  omega

/-- What is written for a number that is not zero. -/
theorem exists_digits_toText (hcanonical : IsCanonical significand shift) (hsome : 0 < significand)
    (negative : Bool) :
    ∃ digits exponent, digits ≠ [] ∧ (∀ c ∈ digits, c.isDigit = true) ∧
      (rounding significand shift).Contains (Decimal.numerator ⟨ofDigits digits, exponent⟩)
        (Decimal.denominator ⟨ofDigits digits, exponent⟩) ∧
      (finite negative significand shift hcanonical).toText =
        String.ofList (marked negative (positional digits exponent)) := by
  have hcontains : (rounding significand shift).Contains _ _ :=
    shortest_contains .upper hsome hcanonical.1
  obtain ⟨zeros, htext, hexponent⟩ := significantDigits_spec (shortest .upper significand shift)
  have hwritten : (finite negative significand shift hcanonical).toText =
      withSign negative (positional (significantDigits (shortest .upper significand shift)).1
        (significantDigits (shortest .upper significand shift)).2) := by
    cases significand with
    | zero => cases hsome
    | succ n => rfl
  generalize shortest .upper significand shift = d at *
  have hpos : 0 < d.digits := digits_pos_of_contains hsome hcontains
  have hdigits : d.digits = ofDigits (significantDigits d).1 * tenTo zeros := by
    have hvalue := congrArg ofDigits htext
    rw [Number.ofDigits_natText, Number.ofDigits_append, Number.ofDigits_replicate_zero,
      List.length_replicate, Nat.add_zero, Nat.mul_comm] at hvalue
    exact hvalue
  refine ⟨_, _, ?_, fun c hc ↦ ?_, ?_, hwritten⟩
  · intro hnil
    rw [hnil] at hdigits
    have hzero : d.digits = 0 := hdigits.trans (Nat.zero_mul _)
    omega
  · refine Number.isDigit_of_mem_natText (n := d.digits) c ?_
    rw [htext]
    exact List.mem_append_left _ hc
  · rw [hexponent]
    apply Rounding.Contains.trailing
    rw [← hdigits]
    exact hcontains

/-! ## Reading digits and a point -/

theorem readUnsigned_digits (negative : Bool) (hsome : digits ≠ [])
    (hdigits : ∀ c ∈ digits, c.isDigit = true) :
    readUnsigned negative digits = some (ofDecimal negative (ofDigits digits) 0) := by
  have htake : digits.takeWhile Char.isDigit = digits := List.takeWhile_eq_self_iff.2 hdigits
  have hdrop : digits.dropWhile Char.isDigit = [] := List.dropWhile_eq_nil_iff.2 hdigits
  simp [readUnsigned, htake, hdrop, hsome, readExponent]

theorem readUnsigned_point (negative : Bool) {whole fraction : List Char} (hsome : whole ≠ [])
    (hwhole : ∀ c ∈ whole, c.isDigit = true) (hfraction : ∀ c ∈ fraction, c.isDigit = true) :
    readUnsigned negative (whole ++ '.' :: fraction) =
      some (ofDecimal negative (ofDigits (whole ++ fraction)) (-fraction.length)) := by
  have hpoint : Char.isDigit '.' = false := by decide
  have htake : (whole ++ '.' :: fraction).takeWhile Char.isDigit = whole := by
    rw [List.takeWhile_append_of_pos hwhole, List.takeWhile_cons_of_neg (by simp [hpoint]),
      List.append_nil]
  have hdrop : (whole ++ '.' :: fraction).dropWhile Char.isDigit = '.' :: fraction := by
    rw [List.dropWhile_append_of_pos hwhole, List.dropWhile_cons_of_neg (by simp [hpoint])]
  have htake' : fraction.takeWhile Char.isDigit = fraction := List.takeWhile_eq_self_iff.2 hfraction
  have hdrop' : fraction.dropWhile Char.isDigit = [] := List.dropWhile_eq_nil_iff.2 hfraction
  simp [readUnsigned, htake, hdrop, htake', hdrop', hsome, readExponent]

theorem isDigit_of_mem_zeros {count : Int} : ∀ c ∈ zeros count, c.isDigit = true := by
  intro c hc
  rw [List.eq_of_mem_replicate hc]
  decide

theorem isDigit_of_mem_append_zeros (hdigits : ∀ c ∈ digits, c.isDigit = true) {count : Int} :
    ∀ c ∈ digits ++ zeros count, c.isDigit = true := fun c hc ↦
  (List.mem_append.1 hc).elim (hdigits c) (isDigit_of_mem_zeros c)

theorem ofDigits_append_zeros (digits : List Char) (count : Int) :
    ofDigits (digits ++ zeros count) = ofDigits digits * tenTo count.toNat := by
  rw [Number.ofDigits_append, zeros, Number.ofDigits_replicate_zero, List.length_replicate,
    Nat.add_zero, Nat.mul_comm]
  rfl

/-- The places of the digits do not depend on how the point and the zeros are written. -/
theorem readUnsigned_positional (negative : Bool) (exponent : Int) (hsome : digits ≠ [])
    (hdigits : ∀ c ∈ digits, c.isDigit = true) :
    readUnsigned negative (positional digits exponent) =
      some (ofDecimal negative (ofDigits digits * tenTo exponent.toNat) (min exponent 0)) := by
  unfold positional
  extract_lets point
  split
  · next hinteger =>
    rw [readUnsigned_digits negative (by simp [hsome]) (isDigit_of_mem_append_zeros hdigits),
      ofDigits_append_zeros, Int.min_eq_right hinteger]
  · next hfraction =>
    have hone : ofDigits digits * tenTo exponent.toNat = ofDigits digits := by
      rw [Int.toNat_of_nonpos (by omega)]
      exact Nat.mul_one _
    rw [hone, Int.min_eq_left (by omega)]
    split
    · next hpoint =>
      have hlength : -((digits.drop point.toNat).length : Int) = exponent := by
        rw [List.length_drop]
        omega
      have hwhole : digits.take point.toNat ≠ [] := by
        simp only [ne_eq, List.take_eq_nil_iff, hsome, or_false]
        omega
      rw [readUnsigned_point negative hwhole (fun c hc ↦ hdigits c (List.mem_of_mem_take hc))
        fun c hc ↦ hdigits c (List.mem_of_mem_drop hc), List.take_append_drop, hlength]
    · next hpoint =>
      have hlength : -((zeros (-point) ++ digits).length : Int) = exponent := by
        rw [List.length_append, zeros, List.length_replicate]
        omega
      have hvalue : ofDigits (['0'] ++ (zeros (-point) ++ digits)) = ofDigits digits := by
        rw [← List.append_assoc]
        exact Number.ofDigits_replicate_zero_append ((-point).toNat + 1) digits
      have hread : readUnsigned negative (['0'] ++ '.' :: (zeros (-point) ++ digits)) = _ :=
        readUnsigned_point negative (by simp) (by simp) fun c hc ↦
          (List.mem_append.1 hc).elim (isDigit_of_mem_zeros c) (hdigits c)
      rw [hvalue, hlength] at hread
      exact hread

/-- A digit comes first, and then digits and points. -/
theorem exists_positional (exponent : Int) (hsome : digits ≠ [])
    (hdigits : ∀ c ∈ digits, c.isDigit = true) :
    ∃ first rest, positional digits exponent = first :: rest ∧ first.isDigit = true ∧
      (∀ c ∈ rest, c.isDigit = true ∨ c = '.') ∧ (exponent < 0 → '.' ∈ rest) := by
  obtain ⟨first, rest, rfl⟩ := List.exists_cons_of_ne_nil hsome
  obtain ⟨hfirst, hrest⟩ := List.forall_mem_cons.1 hdigits
  unfold positional
  extract_lets point
  split
  · next hinteger =>
    exact ⟨first, _, List.cons_append, hfirst,
      fun c hc ↦ .inl (isDigit_of_mem_append_zeros hrest c hc), by omega⟩
  · split
    · next hpoint =>
      obtain ⟨places, hplaces⟩ : ∃ places, point.toNat = places + 1 :=
        Nat.exists_eq_succ_of_ne_zero (by omega)
      rw [hplaces, List.take_succ_cons, List.drop_succ_cons, List.cons_append]
      refine ⟨first, _, rfl, hfirst, fun c hc ↦ ?_, fun _ ↦ by simp⟩
      rcases List.mem_append.1 hc with hc | hc
      · exact .inl (hrest c (List.mem_of_mem_take hc))
      · exact (List.mem_cons.1 hc).symm.imp (fun hc ↦ hrest c (List.mem_of_mem_drop hc)) id
    · refine ⟨'0', _, rfl, by decide, fun c hc ↦ ?_, fun _ ↦ List.mem_cons_self⟩
      refine (List.mem_cons.1 hc).symm.imp (fun hc ↦ ?_) id
      exact (List.mem_append.1 hc).elim (isDigit_of_mem_zeros c) (hdigits c)

theorem readInteger_positional (negative : Bool) (hsome : digits ≠ [])
    (hdigits : ∀ c ∈ digits, c.isDigit = true) {i : Int}
    (h : readInteger (marked negative (positional digits exponent)) = some i) :
    0 ≤ exponent ∧ i = Number.signed negative (ofDigits digits * tenTo exponent.toNat) := by
  by_cases hinteger : 0 ≤ exponent
  · have hread : readInteger (marked negative (digits ++ zeros exponent)) = _ :=
      Number.readInteger_marked (by simp [hsome]) (isDigit_of_mem_append_zeros hdigits)
    rw [positional, if_pos hinteger, hread, ofDigits_append_zeros] at h
    exact ⟨hinteger, (Option.some.inj h).symm⟩
  · obtain ⟨first, rest, htext, hfirst, -, hpoint⟩ := exists_positional exponent hsome hdigits
    have hmem : '.' ∈ first :: rest := List.mem_cons_of_mem first (hpoint (by omega))
    have hnone : readInteger (marked negative (first :: rest)) = none :=
      Number.readInteger_marked_eq_none (Number.unsigned_cons hfirst rest) hmem (by decide)
    rw [htext, hnone] at h
    cases h

/-- What starts with a digit is none of the words. -/
theorem readBinary64_marked (negative : Bool) {first : Char} (hfirst : first.isDigit = true)
    (rest : List Char) :
    readBinary64 (marked negative (first :: rest)) = readUnsigned negative (first :: rest) := by
  have hlower : first.toLower = first := by
    refine dif_neg fun hupper ↦ ?_
    have hrange := hfirst
    simp only [Char.isDigit, Bool.and_eq_true, decide_eq_true_eq] at hrange
    exact absurd (UInt32.le_trans hupper.1 hrange.2) (by decide)
  have hword (word : String) (hother : word.toList.head?.any Char.isDigit = false) :
      (String.ofList ((first :: rest).map Char.toLower) == word) = false := by
    refine beq_eq_false_iff_ne.2 fun heq ↦ ?_
    rw [← heq, String.toList_ofList, List.map_cons, hlower, List.head?_cons, Option.any_some,
      hfirst] at hother
    cases hother
  unfold readBinary64
  rw [Number.splitSign_marked (Number.unsigned_cons hfirst rest)]
  simp only [hword "inf" (by decide), hword "infinity" (by decide), hword "nan" (by decide),
    Bool.or_self, Bool.false_eq_true, if_false]

/-! ## Rounding a decimal -/

theorem twoTo_mono {first second : Nat} (h : first ≤ second) : twoTo first ≤ twoTo second :=
  Nat.pow_le_pow_right (by decide) h

theorem tenTo_le_iff {first second : Nat} : tenTo first ≤ tenTo second ↔ first ≤ second :=
  Nat.pow_le_pow_iff_right (by decide)

theorem tenTo_lt_iff {first second : Nat} : tenTo first < tenTo second ↔ first < second :=
  Nat.pow_lt_pow_iff_right (by decide)

/-- A decimal in a rounding interval is not below the range of the format. -/
theorem le_size_of_contains (hsome : 0 < significand) {d : Decimal}
    (h : (rounding significand shift).Contains d.numerator d.denominator) :
    -330 ≤ (natText d.digits).length + d.exponent := by
  have hlast := Number.lt_tenTo_length_natText d.digits
  generalize (natText d.digits).length = places at *
  have hleast : 1 ≤ (rounding significand shift).low := by
    refine Nat.mul_pos ?_ (twoTo_pos shift)
    split <;> omega
  have hlow : d.denominator ≤ d.numerator * quarter :=
    (Nat.le_mul_of_pos_left _ hleast).trans h.low
  have hquarter : quarter ≤ tenTo 324 := by decide +kernel
  have hlt : tenTo (-d.exponent).toNat < tenTo (places + d.exponent.toNat + 324) := by
    calc
      tenTo (-d.exponent).toNat ≤ d.digits * tenTo d.exponent.toNat * quarter := hlow
      _ < tenTo places * tenTo d.exponent.toNat * tenTo 324 := by
        refine Nat.mul_lt_mul_of_lt_of_le ?_ hquarter (tenTo_pos 324)
        exact Nat.mul_lt_mul_of_pos_right hlast (tenTo_pos _)
      _ = tenTo (places + d.exponent.toNat + 324) := by rw [tenTo_add, tenTo_add]
  have hplaces := tenTo_lt_iff.1 hlt
  omega

theorem high_le (hcanonical : IsCanonical significand shift) :
    (rounding significand shift).high ≤ tenTo 309 * quarter := by
  have hpower : twoTo 55 * 2 * twoTo 2045 ≤ tenTo 309 * quarter := by decide +kernel
  have hbits : 4 * significand + 2 ≤ twoTo 55 * 2 := by
    have hbound : significand < 2 ^ 53 := hcanonical.1
    have hfifty : twoTo 55 = 2 ^ 55 := rfl
    omega
  have hshift : twoTo shift ≤ twoTo 2045 := twoTo_mono hcanonical.2.1
  exact (Nat.mul_le_mul hbits hshift).trans hpower

/-- A decimal in a rounding interval is not above the range of the format. -/
theorem size_le_of_contains (hcanonical : IsCanonical significand shift) {d : Decimal}
    (hpos : 0 < d.digits)
    (h : (rounding significand shift).Contains d.numerator d.denominator) :
    (natText d.digits).length + d.exponent ≤ 310 := by
  have hleading := Number.tenTo_length_natText_le hpos
  have hsome : 0 < (natText d.digits).length := List.length_pos_iff.2 (Number.natText_ne_nil _)
  generalize (natText d.digits).length = places at *
  have hle : tenTo (places - 1 + d.exponent.toNat) ≤ tenTo (309 + (-d.exponent).toNat) := by
    refine Nat.le_of_mul_le_mul_right ?_ quarter_pos
    calc
      tenTo (places - 1 + d.exponent.toNat) * quarter ≤ d.numerator * quarter := by
        rw [tenTo_add]
        exact Nat.mul_le_mul_right _ (Nat.mul_le_mul_right _ hleading)
      _ ≤ (rounding significand shift).high * d.denominator := h.high
      _ ≤ tenTo 309 * quarter * d.denominator := Nat.mul_le_mul_right _ (high_le hcanonical)
      _ = tenTo (309 + (-d.exponent).toNat) * quarter := by
        rw [tenTo_add]
        exact Nat.mul_right_comm _ _ _
  have hplaces := tenTo_le_iff.1 hle
  omega

theorem ofDecimal_of_contains (hcanonical : IsCanonical significand shift) (hsome : 0 < significand)
    (negative : Bool) {d : Decimal}
    (h : (rounding significand shift).Contains d.numerator d.denominator) :
    ofDecimal negative d.digits d.exponent = .finite negative significand shift hcanonical := by
  have hrounded : ofRatio negative d.numerator d.denominator =
      .finite negative significand shift hcanonical :=
    ofRatio_of_contains hcanonical hsome d.denominator_pos h
  have hpos : 0 < d.digits := digits_pos_of_contains hsome h
  have hsmall := le_size_of_contains hsome h
  have hlarge := size_le_of_contains hcanonical hpos h
  have hrange : (d.digits == 0 || (natText d.digits).length + d.exponent < -330) = false := by
    simp only [Bool.or_eq_false_iff, beq_eq_false_iff_ne, decide_eq_false_iff_not]
    omega
  unfold ofDecimal
  extract_lets size
  rw [if_neg (by simp only [size, hrange, Bool.false_eq_true, not_false_eq_true]),
    if_neg (by omega)]
  rw [Decimal.numerator, Decimal.denominator] at hrounded
  split
  · next hinteger =>
    rwa [Int.toNat_of_nonpos (show -d.exponent ≤ 0 by omega)] at hrounded
  · next hfraction =>
    have hone : tenTo d.exponent.toNat = 1 := by
      rw [Int.toNat_of_nonpos (by omega)]
      rfl
    rwa [hone, Nat.mul_one] at hrounded

theorem ofInt_signed {n : Nat} (hpos : 0 < n) (negative : Bool) :
    ofInt (Number.signed negative n) = ofRatio negative n 1 := by
  cases negative with
  | false =>
    have hsign : ¬(n : Int) < 0 := by omega
    simp [ofInt, Number.signed, hsign]
  | true => simp [ofInt, Number.signed, hpos]

/-! ## Whole texts -/

/-- The text of a number that is not zero is read as that number, and as an integer only where the
number is the nearest one to that. -/
theorem exists_toText (hcanonical : IsCanonical significand shift) (hsome : 0 < significand)
    (negative : Bool) :
    ∃ text, (finite negative significand shift hcanonical).toText = String.ofList text ∧
      (∀ c ∈ text, c.isDigit = true ∨ c = '.' ∨ c = '-') ∧
      readBinary64 text = some (finite negative significand shift hcanonical) ∧
      ∀ i, readInteger text = some i → ofInt i = finite negative significand shift hcanonical := by
  obtain ⟨digits, exponent, hnonempty, hdigits, hcontains, htext⟩ :=
    exists_digits_toText hcanonical hsome negative
  obtain ⟨first, rest, hform, hfirst, hrest, -⟩ := exists_positional exponent hnonempty hdigits
  refine ⟨marked negative (positional digits exponent), htext, fun c hc ↦ ?_, ?_, fun i hi ↦ ?_⟩
  · rcases Number.mem_marked hc with rfl | hc
    · exact .inr (.inr rfl)
    · rw [hform] at hc
      rcases List.mem_cons.1 hc with rfl | hc
      · exact .inl hfirst
      · exact (hrest c hc).imp id .inl
  · have hread := readUnsigned_positional negative exponent hnonempty hdigits
    rw [hform, ← readBinary64_marked negative hfirst, ← hform] at hread
    rw [hread]
    have hsame : (rounding significand shift).Contains
        (Decimal.numerator ⟨ofDigits digits * tenTo exponent.toNat, min exponent 0⟩)
        (Decimal.denominator ⟨ofDigits digits * tenTo exponent.toNat, min exponent 0⟩) := by
      have hnumerator : (min exponent 0).toNat = 0 := by omega
      have hdenominator : (-min exponent 0).toNat = (-exponent).toNat := by omega
      unfold Decimal.numerator Decimal.denominator
      have hone : ofDigits digits * tenTo exponent.toNat * tenTo 0 =
          ofDigits digits * tenTo exponent.toNat := Nat.mul_one _
      rw [hnumerator, hdenominator, hone]
      exact hcontains
    exact congrArg some (ofDecimal_of_contains hcanonical hsome negative hsame)
  · obtain ⟨hinteger, rfl⟩ := readInteger_positional negative hnonempty hdigits hi
    have hpos : 0 < ofDigits digits := digits_pos_of_contains hsome hcontains
    have hone : (-exponent).toNat = 0 := by omega
    rw [Decimal.numerator, Decimal.denominator, hone] at hcontains
    rw [ofInt_signed (Nat.mul_pos hpos (tenTo_pos _))]
    exact ofRatio_of_contains hcanonical hsome (tenTo_pos 0) hcontains

end InventoryQuery.Binary64
