import InventoryQuery.Answer.Rows
import InventoryQuery.Proofs.Plan.Fields
import InventoryQuery.Proofs.Plan.Truth

/-!
# Judging records

A record is selected when the conditions of a plan, each judged on the record by itself, are true
together.  The row of values that the conditions share adds nothing to that: in a coherent catalog
each of them finds there what its own field reads.
-/

namespace InventoryQuery

variable {c : Catalog} {inventory : Inventory} {record : Record}

/-! ## What a condition is about -/

namespace Plan

/-- The text field whose length a field stands for, if it stands for one. -/
def measured? (p : Plan) (f : Field) : Option Field :=
  (p.lengths.map (·.source)).find? (·.lengthField == f)

/-- The value of a field of a condition for a record. -/
def reading (p : Plan) (inventory : Inventory) (record : Record) (f : Field) : Value :=
  match p.measured? f with
  | some g => (g.read inventory record).charLength
  | none => f.read inventory record

def judges (p : Plan) (inventory : Inventory) (record : Record) (condition : Condition) : Bool :=
  (p.reading inventory record condition.field).passes condition.test condition.given

/-- The conditions of the plan are true of a record. -/
def accepts (p : Plan) (inventory : Inventory) (record : Record) : Bool :=
  p.truth (p.judges inventory record)

end Plan

/-! ## Reading by column -/

theorem Field.read_congr {f g : Field} (hcomputed : f.isComputed = g.isComputed)
    (h : f.path = g.path ∧ f.key = g.key ∧ f.kind = g.kind) :
    f.read inventory record = g.read inventory record := by
  obtain ⟨hpath, hkey, hkind⟩ := h
  unfold read
  rw [hcomputed, hpath, hkey, hkind]

theorem Catalog.Coherent.read_eq (hc : c.Coherent) {f g : Field} (hf : f ∈ c.comparedFields)
    (hg : g ∈ c.comparedFields) (h : f.column = g.column) :
    f.read inventory record = g.read inventory record := by
  refine Field.read_congr ?_ (hc.alike f hf g hg h)
  rw [isComputed_of_mem_comparedFields hf, isComputed_of_mem_comparedFields hg]

theorem Catalog.Coherent.lengthColumn_read_eq (hc : c.Coherent) {f g : Field}
    (hf : f ∈ c.storedFields) (hg : g ∈ c.storedFields)
    (h : f.lengthColumn.name = g.lengthColumn.name) :
    f.lengthColumn.read inventory record = g.lengthColumn.read inventory record := by
  have hread : f.read inventory record = g.read inventory record :=
    hc.read_eq (mem_comparedFields hf) (mem_comparedFields hg)
      (Field.column_eq_of_name_lengthColumn_eq h)
  exact congrArg Value.charLength hread

/-! ## The row that the conditions share -/

namespace Plan

theorem lookup_addColumn (row : Row) (condition : Condition) (column : String) :
    (addColumn inventory record row condition).lookup column =
      (row.lookup column).or
        (if condition.column = column then some (condition.field.read inventory record)
          else none) := by
  unfold addColumn
  split
  · next hany =>
    by_cases hcolumn : condition.column = column
    · -- The column is there already, so what the condition would add never shows.
      obtain ⟨cell, hcell, hname⟩ := List.any_eq_true.1 hany
      have hname : cell.1 = column := (beq_iff_eq.1 hname).trans hcolumn
      have hsome : (row.lookup column).isSome :=
        List.lookup_isSome_iff.2 ⟨cell, hcell, by simp [hname]⟩
      obtain ⟨v, hv⟩ := Option.isSome_iff_exists.1 hsome
      rw [hv, Option.some_or]
    · rw [if_neg hcolumn, Option.or_none]
  · rw [List.lookup_append, List.lookup_cons]
    by_cases hcolumn : condition.column = column
    · simp [hcolumn]
    · have hbeq : (column == condition.column) = false := by simpa using Ne.symm hcolumn
      simp [hcolumn, hbeq]

theorem lookup_foldl_addColumn (row : Row) (conditions : List Condition) (column : String) :
    (conditions.foldl (addColumn inventory record) row).lookup column =
      (row.lookup column).or
        ((conditions.find? (·.column == column)).map (·.field.read inventory record)) := by
  induction conditions generalizing row with
  | nil => simp
  | cons first rest ih =>
    rw [List.foldl_cons, ih, lookup_addColumn, Option.or_assoc, List.find?_cons]
    by_cases hcolumn : first.column = column
    · simp [hcolumn]
    · have hbeq : (first.column == column) = false := by simpa using hcolumn
      simp [hcolumn, hbeq]

theorem lookup_lengths (lengths : List LengthColumn) (name : String) :
    (lengths.map fun column ↦ (column.name, column.read inventory record)).lookup name =
      (lengths.find? (·.name == name)).map (·.read inventory record) := by
  induction lengths with
  | nil => rfl
  | cons first rest ih =>
    rw [List.map_cons, List.lookup_cons, ih, List.find?_cons, BEq.comm]
    cases first.name == name with
    | true => rfl
    | false => rfl

/-- Length columns come first, and of several conditions on one column the first counts. -/
theorem lookup_evaluationRow (p : Plan) (column : String) :
    (p.evaluationRow inventory record).lookup column =
      ((p.lengths.find? (·.name == column)).map (·.read inventory record)).or
        ((p.conditions.find? (·.column == column)).map (·.field.read inventory record)) := by
  rw [evaluationRow, lookup_foldl_addColumn, lookup_lengths]

/-! ## The row against the fields -/

variable {p : Plan}

theorem Fits.find?_length (hp : p.Fits c) {column : LengthColumn} (hmem : column ∈ p.lengths) :
    ∃ f ∈ c.storedFields, f.lengthColumn.name = column.name ∧
      p.lengths.find? (·.name == column.name) = some f.lengthColumn := by
  have hsome : (p.lengths.find? (·.name == column.name)).isSome :=
    List.find?_isSome.2 ⟨column, hmem, by simp⟩
  obtain ⟨first, hfirst⟩ := Option.isSome_iff_exists.1 hsome
  obtain ⟨f, hf, rfl⟩ := hp.lengths first (List.mem_of_find?_eq_some hfirst)
  exact ⟨f, hf, by simpa using List.find?_some hfirst, hfirst⟩

/-- No length column of the plan is the column of a compared field. -/
theorem Fits.name_ne_column (hp : p.Fits c) (hc : c.Coherent) {column : LengthColumn}
    (hmem : column ∈ p.lengths) {f : Field} (hf : f ∈ c.comparedFields) :
    column.name ≠ f.column := by
  obtain ⟨g, hg, rfl⟩ := hp.lengths column hmem
  exact (hc.apart f hf g hg).symm

theorem Fits.measured?_lengthField (hp : p.Fits c) {column : LengthColumn}
    (hmem : column ∈ p.lengths) :
    ∃ f ∈ c.storedFields, f.lengthColumn.name = column.name ∧
      p.measured? column.source.lengthField = some f := by
  have hsome : (p.measured? column.source.lengthField).isSome :=
    List.find?_isSome.2 ⟨column.source, List.mem_map_of_mem hmem, by simp⟩
  obtain ⟨f, hfound⟩ := Option.isSome_iff_exists.1 hsome
  obtain ⟨other, hother, rfl⟩ := List.mem_map.1 (List.mem_of_find?_eq_some hfound)
  obtain ⟨g, hg, rfl⟩ := hp.lengths other hother
  obtain ⟨s, hs, rfl⟩ := hp.lengths column hmem
  have hfield : g.lengthColumn.source.lengthField = s.lengthColumn.source.lengthField := by
    simpa using List.find?_some hfound
  exact ⟨g, hg, congrArg Field.key hfield, hfound⟩

theorem Fits.measured?_eq_none (hp : p.Fits c) (hc : c.Coherent) {f : Field}
    (hf : f ∈ c.comparedFields) : p.measured? f = none := by
  apply List.find?_eq_none.2
  intro g hg hfield
  obtain ⟨column, hcolumn, rfl⟩ := List.mem_map.1 hg
  obtain ⟨s, hs, rfl⟩ := hp.lengths column hcolumn
  have heq : s.lengthColumn.source.lengthField = f := by simpa using hfield
  exact hc.apart f hf s hs (congrArg Field.column heq.symm)

/-- Every condition finds in the row what its own field, or the length of its text, reads. -/
theorem Fits.value_evaluationRow (hp : p.Fits c) (hc : c.Coherent) {condition : Condition}
    (hmem : condition ∈ p.conditions) :
    (p.evaluationRow inventory record).value condition.column =
      p.reading inventory record condition.field := by
  unfold Row.value reading
  rw [lookup_evaluationRow]
  rcases hp.conditions condition hmem with hcompared | ⟨column, hcolumn, hfield⟩
  · have hlengths : p.lengths.find? (·.name == condition.column) = none :=
      List.find?_eq_none.2 fun column hcolumn hname ↦
        hp.name_ne_column hc hcolumn hcompared (beq_iff_eq.1 hname)
    have hsome : (p.conditions.find? (·.column == condition.column)).isSome :=
      List.find?_isSome.2 ⟨condition, hmem, by simp⟩
    obtain ⟨first, hfirst⟩ := Option.isSome_iff_exists.1 hsome
    have hsame : first.field.column = condition.field.column := by
      have hbeq := List.find?_some hfirst
      exact beq_iff_eq.1 hbeq
    have hread : first.field.read inventory record = condition.field.read inventory record := by
      rcases hp.conditions first (List.mem_of_find?_eq_some hfirst) with h | ⟨column, h, hfield⟩
      · exact hc.read_eq h hcompared hsame
      · rw [hfield, Field.column_lengthField] at hsame
        obtain ⟨s, hs, rfl⟩ := hp.lengths column h
        exact absurd hsame.symm (hc.apart condition.field hcompared s hs)
    rw [hlengths, hfirst, hp.measured?_eq_none hc hcompared]
    exact hread
  · obtain ⟨f, hf, hname, hfind⟩ := hp.find?_length hcolumn
    obtain ⟨g, hg, hname', hmeasured⟩ := hp.measured?_lengthField hcolumn
    have hcolumnName : condition.column = column.name := by
      obtain ⟨s, -, rfl⟩ := hp.lengths column hcolumn
      rw [Condition.column, hfield]
      rfl
    rw [hcolumnName, hfind, hfield, hmeasured]
    exact hc.lengthColumn_read_eq hf hg (hname.trans hname'.symm)

/-- What a condition reads of a record does not depend on the plan that it is in. -/
theorem Fits.reading_congr {q : Plan} (hp : p.Fits c) (hq : q.Fits c) (hc : c.Coherent)
    {condition : Condition} (hmem : condition ∈ p.conditions) (hmem' : condition ∈ q.conditions) :
    p.reading inventory record condition.field = q.reading inventory record condition.field := by
  unfold reading
  by_cases hcompared : condition.field ∈ c.comparedFields
  · rw [hp.measured?_eq_none hc hcompared, hq.measured?_eq_none hc hcompared]
  · obtain ⟨column, hcolumn, hfield⟩ := (hp.conditions condition hmem).resolve_left hcompared
    obtain ⟨column', hcolumn', hfield'⟩ := (hq.conditions condition hmem').resolve_left hcompared
    obtain ⟨f, hf, hname, hmeasured⟩ := hp.measured?_lengthField hcolumn
    obtain ⟨g, hg, hname', hmeasured'⟩ := hq.measured?_lengthField hcolumn'
    rw [hfield] at hfield'
    have hsame : f.lengthColumn.name = g.lengthColumn.name := by
      obtain ⟨s, -, rfl⟩ := hp.lengths column hcolumn
      obtain ⟨s', -, rfl⟩ := hq.lengths column' hcolumn'
      calc
        f.lengthColumn.name = s.lengthColumn.name := hname
        _ = s'.lengthColumn.name := congrArg Field.key hfield'
        _ = g.lengthColumn.name := hname'.symm
    rw [hfield, hmeasured, hfield', hmeasured']
    exact hc.lengthColumn_read_eq hf hg hsame

theorem selects_eq_truth (p : Plan) :
    p.selects inventory record = p.truth (·.holds (p.evaluationRow inventory record)) := by
  rw [← eval_predicate?, selects]
  cases p.predicate? with
  | none => rfl
  | some predicate => rfl

theorem Fits.selects_eq_accepts (hp : p.Fits c) (hc : c.Coherent) :
    p.selects inventory record = p.accepts inventory record := by
  rw [selects_eq_truth]
  apply truth_congr
  intro condition hmem
  unfold Condition.holds judges
  rw [hp.value_evaluationRow hc hmem]

end Plan

end InventoryQuery
