import InventoryQuery.Predicate.Test

/-!
# What tests accept

The values that pass a test, in terms of the values alone.
-/

namespace InventoryQuery

theorem Text.occursIn_iff {part text : List Char} : occursIn part text = true ↔ part <:+: text := by
  induction text with
  | nil => simp [occursIn]
  | cons c rest ih =>
    rw [occursIn, Bool.or_eq_true, List.isPrefixOf_iff_prefix, ih, List.infix_cons_iff]

namespace Binary64

theorem ofForm_ne_nan (negative : Bool) (significand shift : Nat) :
    ofForm negative significand shift ≠ .nan := by
  unfold ofForm
  split
  · exact Binary64.noConfusion
  · exact Binary64.noConfusion

theorem ofRatio_ne_nan (negative : Bool) (num den : Nat) : ofRatio negative num den ≠ .nan := by
  unfold ofRatio
  extract_lets scaled shift significand
  split
  · exact ofForm_ne_nan _ _ _
  · exact ofForm_ne_nan _ _ _

theorem position_isSome_iff {x : Binary64} : x.position.isSome = true ↔ x ≠ .nan := by
  cases x <;> simp [position]

end Binary64

namespace Value

variable {v given : Value}

/-! ## Presence and truth -/

theorem isNull_iff : v.isNull = true ↔ v = .null := by
  cases v <;> simp [isNull]

theorem passes_isNull_iff {b : Bool} :
    v.passes .isNull (.bool b) = true ↔ (v = .null ↔ b = true) := by
  rw [← isNull_iff, passes, asBool?, Option.getD_some, beq_iff_eq, Bool.eq_iff_iff]

theorem passes_exact_bool_iff {b : Bool} : v.passes .exact (.bool b) = true ↔ v = .bool b := by
  cases v with
  | bool c => cases b <;> cases c <;> decide
  | _ => simp [passes, isNull, orderTest, compare]

/-! ## Numbers of characters -/

theorem charLength_eq_null_or_int (v : Value) :
    v.charLength = .null ∨ ∃ n, v.charLength = .int n := by
  unfold charLength
  cases v.textForm? with
  | none => exact .inl rfl
  | some s => exact .inr ⟨_, rfl⟩

theorem int_passes_greater_iff {n i : Int64} :
    (int n).passes .greater (.int i) = true ↔ i < n := by
  simp [passes, isNull, orderTest, compare, Int64.lt_iff_toInt_lt, Int.compare_eq_gt]

theorem int_passes_exact_iff {n i : Int64} : (int n).passes .exact (.int i) = true ↔ n = i := by
  simp [passes, isNull, orderTest, compare, ← Int64.toInt_inj]

theorem charLength_passes_greater_iff {i : Int64} :
    v.charLength.passes .greater (.int i) = true ↔ ∃ n, v.charLength = .int n ∧ i < n := by
  rcases charLength_eq_null_or_int v with h | ⟨n, h⟩
  · simp [h, passes, isNull]
  · simp [h, int_passes_greater_iff]

theorem charLength_passes_exact_iff {i : Int64} :
    v.charLength.passes .exact (.int i) = true ↔ v.charLength = .int i := by
  rcases charLength_eq_null_or_int v with h | ⟨n, h⟩
  · simp [h, passes, isNull]
  · simp [h, int_passes_exact_iff]

/-! ## Text -/

/-- The lower-cased text of a value that is not null stands in a relation to a lower-cased text. -/
def HasText (relation : List Char → List Char → Prop) (v : Value) (text : String) : Prop :=
  v ≠ .null ∧ relation (Text.lower text.toList) (Text.lower v.toText.toList)

theorem textForm?_of_ne_null (h : v ≠ .null) : v.textForm? = some v.toText :=
  if_neg (mt isNull_iff.1 h)

theorem textTest_iff {relation : List Char → List Char → Bool} (hgiven : given ≠ .null) :
    v.textTest relation given = true ↔ v.HasText (fun a b ↦ relation a b = true) given.toText := by
  unfold textTest HasText
  rw [textForm?_of_ne_null hgiven]
  by_cases hv : v = .null
  · simp [hv, textForm?, isNull]
  · rw [textForm?_of_ne_null hv]
    simp [hv]

theorem passes_contains_iff (hgiven : given ≠ .null) :
    v.passes .contains given = true ↔ v.HasText (· <:+: ·) given.toText := by
  simp only [passes, textTest_iff hgiven, Text.occursIn_iff]

theorem passes_startsWith_iff (hgiven : given ≠ .null) :
    v.passes .startsWith given = true ↔ v.HasText (· <+: ·) given.toText := by
  simp only [passes, textTest_iff hgiven, List.isPrefixOf_iff_prefix]

/-! ## Equality and difference -/

/-- A value is different from another one exactly when it is not equal to it. -/
theorem passes_notEqual (v given : Value) : v.passes .notEqual given = !v.passes .equal given := by
  simp [passes, Bool.not_and]

/-- A value of a point in time, with or without a zone. -/
def IsMoment : Value → Prop
  | .timestamp _ | .instant _ => True
  | _ => False

theorem any_isEq (o : Option Ordering) : o.any Ordering.isEq = (o == some .eq) := by
  cases o with
  | none => rfl
  | some ordering => cases ordering <;> rfl

/-- The case of letters has no part in comparisons with other values than texts. -/
theorem passes_exact_of_not_text (v : Value) (h : given.asText? = none) :
    v.passes .exact given = v.passes .equal given := by
  have hsame : v.equalIgnoringCase given = (v.compare given == some .eq) := by
    cases v with
    | text s =>
      cases given with
      | text s' => cases h
      | _ => rfl
    | _ => rfl
  unfold passes orderTest
  rw [any_isEq, hsame]

theorem IsMoment.asText?_eq_none (h : given.IsMoment) : given.asText? = none := by
  cases given with
  | text s => exact h.elim
  | _ => rfl

theorem compare_null (h : given ≠ .null) : compare .null given = none := by
  cases given with
  | null => exact absurd rfl h
  | _ => rfl

theorem passes_exact_iff_compare (h : given ≠ .null) :
    v.passes .exact given = true ↔ v.compare given = some .eq := by
  unfold passes orderTest
  rw [any_isEq]
  cases hv : v.isNull with
  | true => simp [isNull_iff.1 hv, compare_null h]
  | false => simp

theorem passes_equal_openEnd (v : Value) (zoned : Bool) :
    v.passes .equal (.openEnd zoned) = v.passes .equal (.openEnd false) := by
  cases zoned with
  | false => rfl
  | true => cases v <;> rfl

/-- A value that has a place among the numbers. -/
def IsNumber : Value → Prop
  | .int _ => True
  | .float x => x ≠ .nan
  | _ => False

theorem compare_int_isSome_iff {i : Int64} :
    (v.compare (.int i)).isSome = true ↔ v.IsNumber := by
  cases v with
  | int n => simp [compare, IsNumber]
  | float x =>
    have hint : (Binary64.ofInt i.toInt).position.isSome = true :=
      Binary64.position_isSome_iff.2 (Binary64.ofRatio_ne_nan _ _ _)
    obtain ⟨place, hplace⟩ := Option.isSome_iff_exists.1 hint
    rw [IsNumber, ← Binary64.position_isSome_iff, compare, Binary64.compare, hplace]
    cases x.position <;> simp
  | _ => simp [compare, IsNumber]

/-- A value is never equal to an integer and greater or less as well, and for numbers it is one of
the two. -/
theorem passes_exact_or_ordered (v : Value) (i : Int64) :
    ¬(v.passes .exact (.int i) = true ∧
        (v.passes .greater (.int i) || v.passes .less (.int i)) = true) ∧
      (v.passes .exact (.int i) = !(v.passes .greater (.int i) || v.passes .less (.int i)) ↔
        v.IsNumber) := by
  rw [← compare_int_isSome_iff]
  cases hnull : v.isNull with
  | true =>
    rw [isNull_iff.1 hnull]
    simp [passes, isNull, compare]
  | false =>
    simp only [passes, orderTest, hnull, Bool.not_false, Bool.true_and]
    cases v.compare (.int i) with
    | none => simp
    | some ordering => cases ordering <;> decide

end Value

end InventoryQuery
