import InventoryQuery.Number.Literal
import Mathlib.Data.Nat.Digits.Defs

/-!
# Digits that are read back

The decimal digits of a number stand for that number, and an integer is read back from its text.
-/

namespace InventoryQuery.Number

variable {n : Nat} {negative : Bool} {digits : List Char}

/-! ## Digits and numbers -/

theorem ofDigits_eq_ofDigitChars (digits : List Char) :
    ofDigits digits = Nat.ofDigitChars 10 digits 0 := by
  rw [ofDigits, Nat.ofDigitChars_eq_foldl]
  rfl

@[simp]
theorem ofDigits_natText (n : Nat) : ofDigits (natText n) = n := by
  rw [ofDigits_eq_ofDigitChars]
  exact Nat.ofDigitChars_ten_toDigits

theorem ofDigits_append (first rest : List Char) :
    ofDigits (first ++ rest) = 10 ^ rest.length * ofDigits first + ofDigits rest := by
  simp only [ofDigits_eq_ofDigitChars, Nat.ofDigitChars_append]
  exact Nat.ofDigitChars_eq_ofDigitChars_zero

@[simp]
theorem ofDigits_replicate_zero (count : Nat) : ofDigits (List.replicate count '0') = 0 := by
  rw [ofDigits_eq_ofDigitChars, Nat.ofDigitChars_replicate_zero, Nat.mul_zero]

/-- Zeros in front of digits add nothing. -/
theorem ofDigits_replicate_zero_append (count : Nat) (digits : List Char) :
    ofDigits (List.replicate count '0' ++ digits) = ofDigits digits := by
  rw [ofDigits_append, ofDigits_replicate_zero, Nat.mul_zero, Nat.zero_add]

theorem ofDigits_cons (c : Char) (rest : List Char) :
    ofDigits (c :: rest) = 10 ^ rest.length * digitValue c + ofDigits rest := by
  have hone : ofDigits [c] = digitValue c := Nat.zero_add _
  rw [← List.singleton_append, ofDigits_append, hone]

theorem digitValue_lt {c : Char} (h : c.isDigit = true) : digitValue c < 10 := by
  have hhigh : c.toNat ≤ 57 := of_decide_eq_true (Bool.and_eq_true_iff.1 h).2
  have hzero : '0'.toNat = 48 := rfl
  unfold digitValue
  omega

theorem eq_of_digitValue_eq {c d : Char} (hc : c.isDigit = true) (hd : d.isDigit = true)
    (h : digitValue c = digitValue d) : c = d := by
  have hlow : 48 ≤ c.toNat := of_decide_eq_true (Bool.and_eq_true_iff.1 hc).1
  have hlow' : 48 ≤ d.toNat := of_decide_eq_true (Bool.and_eq_true_iff.1 hd).1
  have hzero : '0'.toNat = 48 := rfl
  unfold digitValue at h
  exact Char.toNat_inj.1 (by omega)

/-- Digits stand for less than the power of ten of their number. -/
theorem ofDigits_lt (h : ∀ c ∈ digits, c.isDigit = true) :
    ofDigits digits < 10 ^ digits.length := by
  induction digits with
  | nil => decide
  | cons c rest ih =>
    obtain ⟨hc, hrest⟩ := List.forall_mem_cons.1 h
    calc
      ofDigits (c :: rest) = 10 ^ rest.length * digitValue c + ofDigits rest := ofDigits_cons c rest
      _ < 10 ^ rest.length * digitValue c + 10 ^ rest.length := Nat.add_lt_add_left (ih hrest) _
      _ = 10 ^ rest.length * (digitValue c + 1) := (Nat.mul_succ _ _).symm
      _ ≤ 10 ^ rest.length * 10 := Nat.mul_le_mul_left _ (digitValue_lt hc)
      _ = 10 ^ (c :: rest).length := (pow_succ _ _).symm

theorem isDigit_of_mem_natText : ∀ c ∈ natText n, c.isDigit = true := fun _ hc ↦
  Nat.isDigit_of_mem_toDigits (by decide) (by decide) hc

theorem natText_ne_nil (n : Nat) : natText n ≠ [] := Nat.toDigits_ne_nil

theorem length_natText_le_iff {places : Nat} (h : 0 < places) :
    (natText n).length ≤ places ↔ n < 10 ^ places := Nat.length_toDigits_le_iff (by decide) h

theorem lt_tenTo_length_natText (n : Nat) : n < 10 ^ (natText n).length :=
  (length_natText_le_iff (List.length_pos_iff.2 (natText_ne_nil n))).1 (Nat.le_refl _)

theorem tenTo_length_natText_le (h : 0 < n) : 10 ^ ((natText n).length - 1) ≤ n := by
  by_contra hlt
  rw [Nat.not_le] at hlt
  have hpos : 0 < (natText n).length := List.length_pos_iff.2 (natText_ne_nil n)
  by_cases hone : (natText n).length - 1 = 0
  · rw [hone, pow_zero] at hlt
    omega
  · have hle := (length_natText_le_iff (Nat.pos_of_ne_zero hone)).2 hlt
    omega

/-! ## Signs -/

/-- A text after a minus, or as it is. -/
def marked (negative : Bool) (text : List Char) : List Char :=
  if negative then '-' :: text else text

theorem mem_marked {c : Char} {text : List Char} (h : c ∈ marked negative text) :
    c = '-' ∨ c ∈ text := by
  cases negative with
  | false => exact .inr h
  | true => exact List.mem_cons.1 h

theorem intText_eq_marked (i : Int) : intText i = marked (i < 0) (natText i.natAbs) := by
  unfold intText marked
  simp only [decide_eq_true_eq]

/-- No sign starts the text. -/
def Unsigned (text : List Char) : Prop := ∀ c ∈ text.head?, c ≠ '+' ∧ c ≠ '-'

theorem splitSign_marked {text : List Char} (h : Unsigned text) (negative : Bool) :
    splitSign (marked negative text) = (negative, text) := by
  cases negative with
  | true => rfl
  | false =>
    unfold marked splitSign
    split
    · next rest htext => exact absurd rfl (h '+' (by simp_all)).1
    · next rest htext => exact absurd rfl (h '-' (by simp_all)).2
    · rfl

theorem unsigned_of_isDigit {text : List Char} (h : ∀ c ∈ text.head?, c.isDigit = true) :
    Unsigned text := by
  intro c hc
  have hdigit := h c hc
  constructor
  · rintro rfl
    revert hdigit
    decide
  · rintro rfl
    revert hdigit
    decide

theorem unsigned_cons {first : Char} (h : first.isDigit = true) (rest : List Char) :
    Unsigned (first :: rest) :=
  unsigned_of_isDigit fun _ hc ↦ Option.some.inj hc ▸ h

/-! ## Integers -/

theorem readInteger_marked (hsome : digits ≠ []) (hdigits : ∀ c ∈ digits, c.isDigit = true) :
    readInteger (marked negative digits) = some (signed negative (ofDigits digits)) := by
  have hunsigned : Unsigned digits :=
    unsigned_of_isDigit fun c hc ↦ hdigits c (List.mem_of_head? hc)
  have hall : digits.all Char.isDigit = true := List.all_eq_true.2 hdigits
  simp [readInteger, splitSign_marked hunsigned, hsome, hall]

/-- A text with something other than a digit in it is no integer. -/
theorem readInteger_marked_eq_none {text : List Char} (h : Unsigned text) {c : Char}
    (hc : c ∈ text) (hdigit : c.isDigit = false) : readInteger (marked negative text) = none := by
  have hall : text.all Char.isDigit = false := List.all_eq_false.2 ⟨c, hc, by simp [hdigit]⟩
  simp [readInteger, splitSign_marked h, hall]

theorem signed_natAbs (i : Int) : signed (i < 0) i.natAbs = i := by
  unfold signed
  split
  · next h =>
    have hneg : i < 0 := by simpa using h
    omega
  · next h =>
    have hpos : ¬i < 0 := by simpa using h
    omega

theorem readInteger_intText (i : Int) : readInteger (intText i) = some i := by
  rw [intText_eq_marked, readInteger_marked (natText_ne_nil _) isDigit_of_mem_natText,
    ofDigits_natText, signed_natAbs]

theorem toInt64?_eq_some_iff {i : Int} {n : Int64} : toInt64? i = some n ↔ n.toInt = i := by
  have hmax : Int64.maxValue.toInt = 2 ^ 63 - 1 := rfl
  unfold toInt64?
  constructor
  · intro h
    split at h
    · next hrange =>
      obtain ⟨hlow, hhigh⟩ := Bool.and_eq_true_iff.1 hrange
      obtain rfl := Option.some.inj h
      have hlt : i < 2 ^ 63 := by
        have hle := of_decide_eq_true hhigh
        omega
      exact Int64.toInt_ofInt_of_le (of_decide_eq_true hlow) hlt
    · cases h
  · rintro rfl
    have hrange : (Int64.minValue.toInt ≤ n.toInt && n.toInt ≤ Int64.maxValue.toInt) = true := by
      simpa using ⟨n.minValue_le_toInt, n.toInt_le⟩
    rw [if_pos hrange, Int64.ofInt_toInt]

theorem readInt64_intText (n : Int64) : readInt64 (intText n.toInt) = some n := by
  rw [readInt64, readInteger_intText, Option.bind_some, toInt64?_eq_some_iff]

end InventoryQuery.Number
