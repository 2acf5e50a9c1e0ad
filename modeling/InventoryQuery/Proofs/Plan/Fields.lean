import InventoryQuery.Proofs.Catalog.Coherence
import InventoryQuery.Proofs.Distinct
import InventoryQuery.Proofs.Plan.Compile

/-!
# The fields of a plan

A plan shows fields that tokens resolve to.  Its conditions are on stored fields, on what is shown
for them, and on the lengths of texts, for which the plan has a length column.
-/

namespace InventoryQuery

variable {c : Catalog} {inventory : Inventory}

/-! ## The fields of one condition -/

/-- A condition on a field of the catalog, or on a length for which there is a column. -/
def Condition.Fits (c : Catalog) (lengths : List LengthColumn) (condition : Condition) : Prop :=
  condition.field ∈ c.comparedFields ∨
    ∃ column ∈ lengths, condition.field = column.source.lengthField

def LengthColumn.Fits (c : Catalog) (column : LengthColumn) : Prop :=
  ∃ f ∈ c.storedFields, column = f.lengthColumn

theorem Condition.Fits.mono {lengths more : List LengthColumn} {condition : Condition}
    (h : condition.Fits c lengths) (hsub : lengths ⊆ more) : condition.Fits c more := by
  rcases h with hcompared | ⟨column, hmem, hfield⟩
  · exact .inl hcompared
  · exact .inr ⟨column, hsub hmem, hfield⟩

namespace Field

/-- A field alone is asked for by its own value or by its length. -/
theorem bare_cases (f : Field) (negated : Bool) :
    (∃ test given, f.bare negated = ⟨⟨f, test, given⟩, none⟩) ∨
      ∃ test given, f.bare negated = ⟨⟨f.lengthField, test, given⟩, some f.lengthColumn⟩ := by
  unfold bare presence
  split
  · exact .inl ⟨_, _, rfl⟩
  · split
    case h_2 | h_3 => exact .inr ⟨_, _, rfl⟩
    all_goals exact .inl ⟨_, _, rfl⟩

theorem bare_fits {f : Field} (hf : f ∈ c.storedFields) (negated : Bool) :
    (f.bare negated).condition.Fits c (f.bare negated).length.toList := by
  rcases f.bare_cases negated with ⟨test, given, hbare⟩ | ⟨test, given, hbare⟩
  · rw [hbare]
    exact .inl (Catalog.mem_comparedFields hf)
  · rw [hbare]
    exact .inr ⟨f.lengthColumn, List.mem_singleton_self _, rfl⟩

theorem length_bare_fits {f : Field} (hf : f ∈ c.storedFields) (negated : Bool) :
    ∀ column ∈ (f.bare negated).length, column.Fits c := by
  intro column hcolumn
  rcases f.bare_cases negated with ⟨test, given, hbare⟩ | ⟨test, given, hbare⟩
  · rw [hbare] at hcolumn
    cases hcolumn
  · rw [hbare] at hcolumn
    cases hcolumn
    exact ⟨f, hf, rfl⟩

end Field

namespace Plan

theorem conditions_comparison_of_reference {f : Field} (h : f.kind = .reference) (given : Value) :
    (comparison f .notEqual given).conditions = [⟨f, .greater, given⟩, ⟨f, .less, given⟩] := by
  unfold comparison
  rw [if_pos (by simpa using h)]
  rfl

theorem conditions_comparison_of_other {f : Field} {test : Test} (given : Value)
    (h : ¬(f.kind = .reference ∧ test = .notEqual)) :
    (comparison f test given).conditions = [⟨if test = .contains ∨ test = .startsWith then
      f.shownField?.getD f else f, test, given⟩] := by
  unfold comparison
  rw [if_neg (by simpa using h)]
  by_cases htext : test = .contains ∨ test = .startsWith
  · rw [if_pos htext, if_pos (by simpa using htext)]
    rfl
  · rw [if_neg htext, if_neg (by simpa using htext)]
    rfl

theorem comparison_fits {f : Field} (hf : f ∈ c.storedFields) (test : Test) (given : Value) :
    ∀ condition ∈ (comparison f test given).conditions, condition.field ∈ c.comparedFields := by
  have hown : f ∈ c.comparedFields := Catalog.mem_comparedFields hf
  have hshown : f.shownField?.getD f ∈ c.comparedFields := Catalog.shown_mem_comparedFields hf
  by_cases hdiffers : f.kind = .reference ∧ test = .notEqual
  · obtain ⟨hkind, rfl⟩ := hdiffers
    rw [conditions_comparison_of_reference hkind]
    simp [hown]
  · rw [conditions_comparison_of_other given hdiffers]
    split
    · simp [hshown]
    · simp [hown]

theorem length_comparison (f : Field) (test : Test) (given : Value) :
    (comparison f test given).length = none := by
  unfold comparison
  split
  · rfl
  · split
    · rfl
    · rfl

/-- A written condition is on the stored field that its token resolves to. -/
theorem block_fits {clause : Clause} {b : Block} (h : block c inventory clause = .ok b) :
    (∀ condition ∈ b.conditions, condition.Fits c b.length.toList) ∧
      ∀ column ∈ b.length, column.Fits c := by
  cases clause with
  | bare field negated =>
    obtain ⟨f, hresolve, hstored, rfl⟩ := block_bare_eq_ok_iff.1 h
    have hf : f ∈ c.storedFields := Catalog.mem_storedFields hresolve hstored
    refine ⟨fun condition hmem ↦ ?_, f.length_bare_fits hf negated⟩
    rw [List.mem_singleton.1 hmem]
    exact f.bare_fits hf negated
  | comparison field op value =>
    obtain ⟨f, hresolve, hstored, test, -, given, -, rfl⟩ := block_comparison_eq_ok_iff.1 h
    have hf : f ∈ c.storedFields := Catalog.mem_storedFields hresolve hstored
    refine ⟨fun condition hmem ↦ .inl (comparison_fits hf test given condition hmem), ?_⟩
    rw [length_comparison]
    rintro column ⟨⟩

/-! ## The fields of a plan -/

/-- A plan that only has to do with fields of the catalog. -/
structure Fits (c : Catalog) (p : Plan) : Prop where
  fields : ∀ f ∈ p.fields, ∃ token, c.resolve? token = some f
  conditions : ∀ condition ∈ p.conditions, condition.Fits c p.lengths
  lengths : ∀ column ∈ p.lengths, column.Fits c

theorem mem_lengths_ofBlocks_iff {fields : List Field} {first : Block}
    {rest : List (Connective × Block)} {column : LengthColumn} :
    column ∈ (ofBlocks fields first rest).lengths ↔
      ∃ b ∈ first :: rest.map (·.2), b.length = some column := by
  constructor
  · intro h
    exact List.mem_filterMap.1 (mem_of_mem_firstsBy h)
  · intro h
    obtain ⟨same, hsame, rfl⟩ : ∃ same ∈ firstsBy id _, id same = id column :=
      exists_mem_firstsBy (List.mem_filterMap.2 h)
    exact hsame

theorem fits_ofBlocks {fields : List Field} {first : Block} {rest : List (Connective × Block)}
    (hfields : ∀ f ∈ fields, ∃ token, c.resolve? token = some f)
    (hblocks : ∀ b ∈ first :: rest.map (·.2),
      (∀ condition ∈ b.conditions, condition.Fits c b.length.toList) ∧
        ∀ column ∈ b.length, column.Fits c) :
    (ofBlocks fields first rest).Fits c where
  fields := hfields
  conditions := by
    intro condition hmem
    obtain ⟨b, hb, hcondition⟩ := List.mem_flatMap.1 hmem
    refine ((hblocks b hb).1 condition hcondition).mono fun column hcolumn ↦ ?_
    exact mem_lengths_ofBlocks_iff.2 ⟨b, hb, Option.mem_toList.1 hcolumn⟩
  lengths := by
    intro column hmem
    obtain ⟨b, hb, hlength⟩ := mem_lengths_ofBlocks_iff.1 hmem
    exact (hblocks b hb).2 column hlength

theorem fields_fit {written : List (Located String)} {fields : List Field}
    (h : List.Forall₂ (fun token f ↦ c.resolve? token.value = some f) written fields) :
    ∀ f ∈ fields, ∃ token, c.resolve? token = some f := by
  intro f hf
  obtain ⟨token, -, hresolve⟩ := exists_mem_of_forall₂ h hf
  exact ⟨token.value, hresolve⟩

/-- Every plan that a query compiles to fits the catalog. -/
theorem ofQuery_fits {q : Query} {p : Plan} (h : ofQuery c inventory q = .ok p) : p.Fits c := by
  obtain ⟨written, filter, span⟩ := q
  cases filter with
  | none =>
    obtain ⟨shown, hshown, rfl⟩ := ofQuery_none_eq_ok_iff.1 h
    exact ⟨fields_fit hshown, by simp, by simp⟩
  | some filter =>
    obtain ⟨shown, hshown, first, hfirst, rest, hrest, rfl⟩ := ofQuery_some_eq_ok_iff.1 h
    apply fits_ofBlocks (fields_fit hshown)
    intro b hb
    rcases List.mem_cons.1 hb with rfl | hb
    · exact block_fits hfirst
    · obtain ⟨compiled, hmem, rfl⟩ := List.mem_map.1 hb
      obtain ⟨link, -, -, hblock⟩ := exists_mem_of_forall₂ hrest hmem
      exact block_fits hblock

end Plan

end InventoryQuery
