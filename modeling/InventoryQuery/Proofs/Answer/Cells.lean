import InventoryQuery.Answer.Basic
import InventoryQuery.Proofs.Plan.Fields
import Mathlib.Data.List.Perm.Basic

/-!
# Cells of an answer

What an answer shows for a field is a matter of the record and the field alone.  Rows are taken
apart cell by cell on the way, each time with the last cell put in the free place, and a field that
was asked for twice is taken once; none of that shows in the end.
-/

namespace InventoryQuery

variable {c : Catalog} {inventory : Inventory} {record : Record}

namespace Field

/-- The stored or computed value of a field for a record. -/
def raw [Functions] (inventory : Inventory) (record : Record) (f : Field) : Value :=
  match f.computation with
  | some computation => computation.value inventory record.id
  | none => if f.token = Record.idName then .int record.id else f.read inventory record

/-- What is shown for a field of a record: its value, rendered unless it is null. -/
def cell [Functions] (inventory : Inventory) (record : Record) (f : Field) : Value :=
  match f.rendering with
  | none => f.raw inventory record
  | some rendering =>
    if (f.raw inventory record).isNull then f.raw inventory record
    else rendering.shown inventory (f.raw inventory record)

end Field

/-! ## Taking cells out of a row -/

namespace Row

def columns (row : Row) : List String := row.map (·.1)

theorem lookup_eq_some_iff_mem {row : Row} (hdistinct : row.columns.Nodup) {column : String}
    {v : Value} : row.lookup column = some v ↔ (column, v) ∈ row := by
  induction row with
  | nil => simp
  | cons cell rest ih =>
    obtain ⟨name, kept⟩ := cell
    obtain ⟨hfresh, hrest⟩ := List.nodup_cons.1 hdistinct
    rw [List.lookup_cons, List.mem_cons]
    by_cases hname : column = name
    · have habsent : (column, v) ∉ rest := fun hmem ↦
        hfresh (List.mem_map.2 ⟨(column, v), hmem, hname⟩)
      subst hname
      simp [habsent, eq_comm]
    · have hbeq : (column == name) = false := by simpa using hname
      simp [hbeq, hname, ih hrest]

theorem nodup_columns_iff_of_perm {row row' : Row} (h : List.Perm row row') :
    row.columns.Nodup ↔ row'.columns.Nodup := (h.map Prod.fst).nodup_iff

/-- Taking a cell out leaves the others, if in another order. -/
theorem take_append_cons {before : Row} {column : String} (hfirst : column ∉ before.columns)
    (v : Value) (after : Row) :
    ∃ rest, take (before ++ (column, v) :: after) column = (some v, rest) ∧
      rest.Perm (before ++ after) := by
  have hindex : (before ++ (column, v) :: after).findIdx? (·.1 == column) =
      some before.length := by
    have hnone : before.findIdx? (·.1 == column) = none :=
      List.findIdx?_eq_none_iff.2 fun cell hcell ↦ by
        simpa using fun hname : cell.1 = column ↦ hfirst (hname ▸ List.mem_map_of_mem hcell)
    simp [hnone, List.findIdx?_cons]
  unfold take
  rw [hindex]
  rcases List.eq_nil_or_concat after with rfl | ⟨mid, last, rfl⟩
  · exact ⟨before, by simp, by simp⟩
  · have hlast : (before ++ (column, v) :: mid.concat last).getLast? = some last := by
      simp [List.getLast?_cons]
    have hrest : ((before ++ (column, v) :: mid.concat last).set before.length last).dropLast =
        before ++ last :: mid := by
      rw [List.set_append_right _ _ (Nat.le_refl _), Nat.sub_self, List.set_cons_zero,
        List.concat_eq_append, ← List.cons_append, ← List.append_assoc, List.dropLast_concat]
    rw [hlast]
    refine ⟨before ++ last :: mid, ?_, ?_⟩
    · simp only [hrest]
      simp
    · rw [List.concat_eq_append]
      exact (List.perm_append_singleton last mid).symm.append_left before

/-- Where no column is given twice, only the column that is taken changes. -/
theorem take_of_lookup {row : Row} (hdistinct : row.columns.Nodup) {column : String} {v : Value}
    (h : row.lookup column = some v) :
    ∃ rest, row.take column = (some v, rest) ∧ rest.columns.Nodup ∧
      ∀ other, other ≠ column → rest.lookup other = row.lookup other := by
  obtain ⟨before, after, rfl, hbefore⟩ := List.lookup_eq_some_iff.1 h
  have hfirst : column ∉ Row.columns before := by
    intro hmem
    obtain ⟨cell, hcell, hname⟩ := List.mem_map.1 hmem
    simpa [hname] using hbefore cell hcell
  obtain ⟨rest, htake, hperm⟩ := take_append_cons hfirst v after
  have hrow : ((column, v) :: rest).Perm (before ++ (column, v) :: after) :=
    (hperm.cons _).trans List.perm_middle.symm
  have hrest : rest.columns.Nodup :=
    (List.nodup_cons.1 ((nodup_columns_iff_of_perm hrow).2 hdistinct)).2
  refine ⟨rest, htake, hrest, fun other hother ↦ ?_⟩
  ext w
  rw [lookup_eq_some_iff_mem hrest, lookup_eq_some_iff_mem hdistinct, ← hrow.mem_iff,
    List.mem_cons]
  simp [hother]

/-- A row that holds what fields read of a record, each under its own token. -/
structure Serves (inventory : Inventory) (record : Record) (fields : List Field) (row : Row) :
    Prop where
  distinct : row.columns.Nodup
  reads : ∀ f ∈ fields, f.isComputed = false → f.token ≠ Record.idName →
    row.lookup f.token = some (f.read inventory record)

end Row

namespace Answer

variable [Functions]

theorem shownCell_raw (inventory : Inventory) (record : Record) (f : Field) :
    shownCell inventory f (f.raw inventory record) = f.cell inventory record := rfl

/-- The value of the first field comes out of the row, which serves the other fields as before. -/
theorem rawCell_eq {f : Field} {fields : List Field} {row : Row}
    (hfresh : f.token ∉ fields.map (·.token)) (hrow : row.Serves inventory record (f :: fields)) :
    ∃ rest, rawCell inventory (some record.id) f row = (f.raw inventory record, rest) ∧
      rest.Serves inventory record fields := by
  have hothers : row.Serves inventory record fields :=
    ⟨hrow.distinct, fun g hg ↦ hrow.reads g (List.mem_cons_of_mem f hg)⟩
  unfold rawCell Field.raw
  cases hcomputation : f.computation with
  | some computation => exact ⟨row, rfl, hothers⟩
  | none =>
    by_cases hid : f.token = Record.idName
    · exact ⟨row, by simp only [if_pos hid], hothers⟩
    · have hstored : f.isComputed = false := by simp [Field.isComputed, hcomputation]
      have hlookup := hrow.reads f List.mem_cons_self hstored hid
      obtain ⟨rest, htake, hdistinct, hkept⟩ := Row.take_of_lookup hrow.distinct hlookup
      refine ⟨rest, ?_, hdistinct, fun g hg hstored' hid' ↦ ?_⟩
      · simp only [if_neg hid, Row.takeOrNull, htake, Option.getD_some]
      · have hother : g.token ≠ f.token := fun heq ↦ hfresh (List.mem_map.2 ⟨g, hg, heq⟩)
        rw [hkept g.token hother]
        exact hothers.reads g hg hstored' hid'

theorem shownCells_eq {fields : List Field} (hdistinct : (fields.map (·.token)).Nodup) {row : Row}
    (hrow : row.Serves inventory record fields) :
    shownCells inventory (some record.id) fields row =
      fields.map fun f ↦ (f.token, f.cell inventory record) := by
  induction fields generalizing row with
  | nil => rfl
  | cons f rest ih =>
    obtain ⟨hfresh, hrest⟩ := List.nodup_cons.1 hdistinct
    obtain ⟨left, hraw, hleft⟩ := rawCell_eq hfresh hrow
    rw [shownCells, hraw, List.map_cons, ← shownCell_raw, ← ih hrest hleft]

end Answer

/-! ## The cells of a plan -/

namespace Plan

variable {p : Plan}

theorem nodup_distinctFields (p : Plan) : (p.distinctFields.map (·.token)).Nodup :=
  nodup_map_firstsBy (·.token) p.fields

/-- Without the id, the row of a record serves all the fields that are shown. -/
theorem take_row (p : Plan) (inventory : Inventory) (record : Record) :
    ∃ rest, (p.row inventory record).take Record.idName = (some (.int record.id), rest) ∧
      rest.Serves inventory record p.distinctFields := by
  have hcolumns : Row.columns (p.storedFields.map fun f ↦ (f.token, f.read inventory record)) =
      p.storedFields.map (·.token) := by simp [Row.columns, Function.comp_def]
  have hstored : (p.storedFields.map (·.token)).Nodup :=
    p.nodup_distinctFields.sublist (List.filter_sublist.map _)
  have hfirst : Record.idName ∉ Row.columns [] := List.not_mem_nil
  obtain ⟨rest, htake, hperm⟩ := Row.take_append_cons hfirst (.int record.id)
    (p.storedFields.map fun f ↦ (f.token, f.read inventory record))
  have hdistinct : rest.columns.Nodup := by
    rw [Row.nodup_columns_iff_of_perm hperm, List.nil_append, hcolumns]
    exact hstored
  refine ⟨rest, htake, hdistinct, fun f hf hcomputed hid ↦ ?_⟩
  rw [Row.lookup_eq_some_iff_mem hdistinct, hperm.mem_iff]
  exact List.mem_map.2 ⟨f, List.mem_filter.2 ⟨hf, by simp [hcomputed, hid]⟩, rfl⟩

/-- A field has its own cell, even where its token is asked for more than once. -/
theorem Fits.lookup_cells [Functions] (hp : p.Fits c) {f : Field} (hf : f ∈ p.fields) :
    (p.distinctFields.map fun g ↦ (g.token, g.cell inventory record)).lookup f.token =
      some (f.cell inventory record) := by
  obtain ⟨g, hg, htoken⟩ : ∃ g ∈ p.distinctFields, g.token = f.token := exists_mem_firstsBy hf
  obtain ⟨written, hresolved⟩ := hp.fields f hf
  obtain ⟨written', hresolved'⟩ := hp.fields g (mem_of_mem_firstsBy hg)
  have heq : g = f := Catalog.eq_of_resolve?_of_token_eq hresolved' hresolved htoken
  have hdistinct : Row.columns (p.distinctFields.map fun g ↦
      (g.token, g.cell inventory record)) |>.Nodup := by
    simpa [Row.columns, Function.comp_def] using p.nodup_distinctFields
  rw [Row.lookup_eq_some_iff_mem hdistinct]
  exact List.mem_map.2 ⟨f, heq ▸ hg, rfl⟩

/-- The shown row of a record has one cell for every field, in their order. -/
theorem Fits.ofRow_row [Functions] (hp : p.Fits c) :
    Answer.ofRow p inventory (p.row inventory record) =
      p.fields.map fun f ↦ (f.token, f.cell inventory record) := by
  obtain ⟨rest, htake, hserves⟩ := p.take_row inventory record
  unfold Answer.ofRow
  simp only [htake, Option.bind_some, Value.asInt?]
  rw [Answer.shownCells_eq p.nodup_distinctFields hserves]
  apply List.map_congr_left
  intro f hf
  rw [Row.value, hp.lookup_cells hf, Option.getD_some]

end Plan

end InventoryQuery
