import InventoryQuery.Proofs.Answer.Judgement
import InventoryQuery.Proofs.Catalog.Registration
import InventoryQuery.Proofs.Plan.Structure

/-!
# The columns that predicates read

A predicate depends on nothing in a row but the first values of its columns.  The row that is made
of a record for the conditions of a plan has a value for each of them: the length of a text for a
condition on that length, and what is stored for any other.
-/

namespace InventoryQuery

/-! ## Predicates and rows -/

namespace Predicate

variable {p : Predicate}

theorem mem_columns_iff {column : String} :
    column ∈ p.columns ↔ ∃ condition ∈ p.conditions, condition.column = column := by
  rw [columns, Text.mem_sortedWords, List.mem_map]

/-- Only how the conditions of a predicate are judged counts. -/
theorem eval_congr {judge judge' : Condition → Bool}
    (h : ∀ condition ∈ p.conditions, judge condition = judge' condition) :
    p.eval judge = p.eval judge' := by
  induction p with
  | condition c => exact h c (List.mem_singleton_self c)
  | join k left right ihleft ihright =>
    obtain ⟨hleft, hright⟩ := List.forall_mem_append.1 h
    rw [eval, eval, ihleft hleft, ihright hright]

/-- Rows with the same first values in the columns of a predicate are the same to it. -/
theorem holds_congr {row row' : Row}
    (h : ∀ column ∈ p.columns, row.lookup column = row'.lookup column) :
    p.holds row = p.holds row' := by
  refine eval_congr fun condition hmem ↦ ?_
  have hcolumn : row.lookup condition.column = row'.lookup condition.column :=
    h condition.column (mem_columns_iff.2 ⟨condition, hmem, rfl⟩)
  rw [Condition.holds, Condition.holds, Row.value, Row.value, hcolumn]

/-- A predicate joins none but the conditions that it is made of. -/
theorem conditions_subset {conditions : List Condition} {connectives : List Connective}
    (h : ofConditions? conditions connectives = some p) : p.conditions ⊆ conditions := by
  cases conditions with
  | nil => cases h
  | cons first rest =>
    obtain rfl := Option.some.inj h
    intro condition hmem
    rw [Plan.conditions_foldl_join] at hmem
    rcases List.mem_append.1 hmem with hfirst | hrest
    · rw [List.mem_singleton.1 hfirst]
      exact List.mem_cons_self
    · obtain ⟨link, hlink, rfl⟩ := List.mem_map.1 hrest
      exact List.mem_cons_of_mem first (List.of_mem_zip hlink).1

end Predicate

/-! ## The row of a plan -/

namespace Plan

variable {c : Catalog} {store : Inventory} {record : Record} {p : Plan}

/-- What the row that conditions share has for one of them.  Under the name of a length column it is
a length; otherwise it is the stored value of a field with the column of the condition. -/
inductive Supplies (c : Catalog) (p : Plan) (store : Inventory) (record : Record)
    (condition : Condition) : Value → Prop
  | length {column : LengthColumn} (hmem : column ∈ p.lengths)
      (hname : column.name = condition.column) :
      Supplies c p store record condition (column.read store record)
  | field {other : Condition} (hnone : ∀ column ∈ p.lengths, column.name ≠ condition.column)
      (hfield : condition.field ∈ c.comparedFields) (hmem : other ∈ p.conditions)
      (hother : other.field ∈ c.comparedFields) (hcolumn : other.column = condition.column) :
      Supplies c p store record condition (other.field.read store record)

/-- A condition whose column is no length column is on a field of the catalog. -/
theorem Fits.mem_comparedFields (hp : p.Fits c) {condition : Condition}
    (hmem : condition ∈ p.conditions)
    (hnone : ∀ column ∈ p.lengths, column.name ≠ condition.column) :
    condition.field ∈ c.comparedFields := by
  refine (hp.conditions condition hmem).resolve_right ?_
  rintro ⟨column, hcolumn, hfield⟩
  obtain ⟨f, -, rfl⟩ := hp.lengths column hcolumn
  exact hnone f.lengthColumn hcolumn (by rw [Condition.column, hfield]; rfl)

theorem Fits.exists_supplies (hp : p.Fits c) {condition : Condition}
    (hmem : condition ∈ p.conditions) (store : Inventory) (record : Record) :
    ∃ v, p.Supplies c store record condition v ∧
      (p.evaluationRow store record).lookup condition.column = some v := by
  rw [lookup_evaluationRow]
  cases hlength : p.lengths.find? (·.name == condition.column) with
  | some column =>
    have hname : column.name = condition.column := by simpa using List.find?_some hlength
    exact ⟨_, .length (List.mem_of_find?_eq_some hlength) hname, rfl⟩
  | none =>
    have hnone : ∀ column ∈ p.lengths, column.name ≠ condition.column := by
      simpa using List.find?_eq_none.1 hlength
    have hsome : (p.conditions.find? (·.column == condition.column)).isSome :=
      List.find?_isSome.2 ⟨condition, hmem, by simp⟩
    obtain ⟨other, hother⟩ := Option.isSome_iff_exists.1 hsome
    have hcolumn : other.column = condition.column := by simpa using List.find?_some hother
    have hmem' : other ∈ p.conditions := List.mem_of_find?_eq_some hother
    refine ⟨_, .field hnone (hp.mem_comparedFields hmem hnone) hmem'
      (hp.mem_comparedFields hmem' (hcolumn ▸ hnone)) hcolumn, ?_⟩
    rw [hother]
    rfl

/-- A predicate reads its columns and nothing else of a row.  Whatever plan a query has, the row
made of a record has a value for each column of the plan's predicate, so that every condition is
decided by a value that the row has for it. -/
theorem predicate_supplied :
    (∀ (predicate : Predicate) (row row' : Row),
      (∀ column ∈ predicate.columns, row.lookup column = row'.lookup column) →
        predicate.holds row = predicate.holds row') ∧
    ∀ (c : Catalog) (inventory : Inventory) (q : Query) (p : Plan) (predicate : Predicate),
      ofQuery c inventory q = .ok p → p.predicate? = some predicate →
        ∀ (store : Inventory) (record : Record),
          (∀ column ∈ predicate.columns,
            ∃ v, (p.evaluationRow store record).lookup column = some v) ∧
          ∀ condition ∈ predicate.conditions, ∃ v, p.Supplies c store record condition v ∧
            (p.evaluationRow store record).lookup condition.column = some v ∧
            condition.holds (p.evaluationRow store record) =
              v.passes condition.test condition.given := by
  refine ⟨fun _ _ _ ↦ Predicate.holds_congr, ?_⟩
  intro c inventory q p predicate hplan hpredicate store record
  have hp : p.Fits c := ofQuery_fits hplan
  have hsubset : predicate.conditions ⊆ p.conditions := Predicate.conditions_subset hpredicate
  refine ⟨fun column hcolumn ↦ ?_, fun condition hmem ↦ ?_⟩
  · obtain ⟨condition, hmem, rfl⟩ := Predicate.mem_columns_iff.1 hcolumn
    obtain ⟨v, -, hv⟩ := hp.exists_supplies (hsubset hmem) store record
    exact ⟨v, hv⟩
  · obtain ⟨v, hsupplies, hv⟩ := hp.exists_supplies (hsubset hmem) store record
    refine ⟨v, hsupplies, hv, ?_⟩
    rw [Condition.holds, Row.value, hv, Option.getD_some]

/-- The length of a comment is not what a record has under that name, and neither another column nor
a second value of the same column makes a difference. -/
theorem predicate_supplied_of_comment :
    let inventory : Inventory :=
      .ofTables [("architectures", [.ofList 1 [("name", .text "x86_64")]])]
    let record : Record := .ofList 1 [("comment", .text "rack"), ("comment__length", .int 9)]
    ∃ q p predicate, ofQuery Catalog.hosts inventory q = .ok p ∧
      p.predicate? = some predicate ∧
      predicate.columns = ["architecture", "comment__length"] ∧
      (p.evaluationRow inventory record).lookup "comment__length" = some (.int 4) ∧
      (∀ column ∈ predicate.columns,
        ∃ v, (p.evaluationRow inventory record).lookup column = some v) ∧
      (∀ condition ∈ predicate.conditions, ∃ v,
        p.Supplies Catalog.hosts inventory record condition v ∧
        (p.evaluationRow inventory record).lookup condition.column = some v ∧
        condition.holds (p.evaluationRow inventory record) =
          v.passes condition.test condition.given) ∧
      predicate.holds [("comment__length", .int 4), ("architecture", .int 2)] =
        predicate.holds [("fqdn", .text "a.test"), ("architecture", .int 2),
          ("comment__length", .int 4), ("comment__length", .int 0)] := by
  intro inventory record
  have hread : (Query.read
      "fqdn where comment and arch != x86_64 or !comment").toOption.isSome = true := by
    decide +kernel
  have hplan : (ofSource Catalog.hosts inventory
      "fqdn where comment and arch != x86_64 or !comment").toOption.map (fun p ↦
        (p.predicate?.map (·.columns), (p.evaluationRow inventory record).lookup
          "comment__length")) =
      some (some ["architecture", "comment__length"], some (.int 4)) := by
    decide +kernel
  obtain ⟨q, hread⟩ := Option.isSome_iff_exists.1 hread
  obtain ⟨p, hplan, hparts⟩ := exists_ok_of_toOption_map hplan
  obtain ⟨hcolumns, hlength⟩ := Prod.mk.inj hparts
  obtain ⟨predicate, hpredicate, hcolumns⟩ := Option.map_eq_some_iff.1 hcolumns
  have hquery : ofQuery Catalog.hosts inventory q = .ok p :=
    (ofSource_eq_ok_iff_of_read (toOption_eq_some_iff.1 hread)).1 hplan
  obtain ⟨hfound, hsupplied⟩ :=
    predicate_supplied.2 _ _ q p predicate hquery hpredicate inventory record
  refine ⟨q, p, predicate, hquery, hpredicate, hcolumns, hlength, hfound, hsupplied, ?_⟩
  apply predicate_supplied.1
  rw [hcolumns]
  decide

end Plan

end InventoryQuery
