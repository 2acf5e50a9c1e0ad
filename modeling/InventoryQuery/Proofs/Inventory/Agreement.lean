import InventoryQuery.Answer.Basic
import InventoryQuery.Catalog.Basic
import Mathlib.Data.List.Basic

/-!
# Inventories that agree

Inventories that differ in one table only are the same to whatever does not read that table.  The
tables that a field reads beyond its own record are known from the field.
-/

namespace InventoryQuery

theorem Table.eq_of_records_eq {t t' : Table} (h : t.records = t'.records) : t = t' := by
  obtain ⟨records, index, hindexed⟩ := t
  obtain ⟨records', index', hindexed'⟩ := t'
  obtain rfl : records = records' := h
  subst hindexed hindexed'
  rfl

namespace Inventory

/-- The last list of records of a name counts, and lists of other names are left alone. -/
theorem records_ofTables_append (tables : List (String × List Record)) (name : String)
    (records : List Record) (table : String) :
    (ofTables (tables ++ [(name, records)])).records table =
      if name = table then records else (ofTables tables).records table := by
  unfold Inventory.records Inventory.table ofTables
  rw [List.foldl_append, List.foldl_cons, List.foldl_nil, Std.TreeMap.getD_insert]
  by_cases hname : name = table
  · rw [if_pos (Std.LawfulEqCmp.compare_eq_iff_eq.2 hname), if_pos hname]
    rfl
  · rw [if_neg (fun heq ↦ hname (Std.LawfulEqCmp.compare_eq_iff_eq.1 heq)), if_neg hname]

/-- The same records in every table but one. -/
def AgreeBut (hidden : String) (first second : Inventory) : Prop :=
  ∀ table, table ≠ hidden → first.records table = second.records table

variable {hidden : String} {first second : Inventory}

theorem AgreeBut.table_eq (h : AgreeBut hidden first second) {table : String}
    (htable : table ≠ hidden) : first.table table = second.table table :=
  Table.eq_of_records_eq (h table htable)

theorem AgreeBut.get?_eq (h : AgreeBut hidden first second) {table : String}
    (htable : table ≠ hidden) (id : Int64) : first.get? table id = second.get? table id := by
  unfold get?
  rw [h.table_eq htable]

theorem AgreeBut.idOf?_eq (h : AgreeBut hidden first second) {table : String}
    (htable : table ≠ hidden) (key text : String) :
    first.idOf? table key text = second.idOf? table key text := by
  unfold idOf?
  rw [h.table_eq htable]

theorem AgreeBut.referring_eq (h : AgreeBut hidden first second) {table : String}
    (htable : table ≠ hidden) (key : String) (id : Int64) :
    first.referring table key id = second.referring table key id := by
  unfold referring
  rw [h.table_eq htable]

/-- A path that never enters the other table leads to the same record. -/
theorem AgreeBut.follow_eq (h : AgreeBut hidden first second) {path : List Hop}
    (hpath : hidden ∉ path.map (·.table)) (record : Record) :
    first.follow record path = second.follow record path := by
  induction path generalizing record with
  | nil => rfl
  | cons hop rest ih =>
    rw [List.map_cons, List.mem_cons, not_or] at hpath
    have hstep (id : Int64) : first.get? hop.table id = second.get? hop.table id :=
      h.get?_eq (Ne.symm hpath.1) id
    unfold follow
    rw [List.foldlM_cons, List.foldlM_cons, funext hstep]
    congr 1
    funext next
    exact ih hpath.2 next

end Inventory

/-! ## The tables of a field -/

def Rendering.table? : Rendering → Option String
  | .name table _ => some table
  | .openEnd => none

namespace Field

/-- The tables from which anything of the field is read, apart from that of the record. -/
def tables (f : Field) : List String :=
  f.path.map (·.table) ++ f.lookup.toList.map (·.table) ++
    (f.rendering.bind (·.table?)).toList ++ f.computation.toList.map fun _ ↦ interfacesTable

variable {hidden : String} {first second : Inventory} {f : Field}

theorem read_agree (h : first.AgreeBut hidden second) (hf : hidden ∉ f.tables)
    (record : Record) : f.read first record = f.read second record := by
  have hpath : hidden ∉ f.path.map (·.table) := by
    simp only [tables, List.mem_append, not_or] at hf
    exact hf.1.1.1
  unfold read
  rw [h.follow_eq hpath]

theorem value_lookup_agree (h : first.AgreeBut hidden second) (hf : hidden ∉ f.tables)
    {lookup : NameLookup} (hlookup : f.lookup = some lookup) (token text : String) :
    lookup.value first token text = lookup.value second token text := by
  have htable : lookup.table ≠ hidden := by
    rintro rfl
    simp [tables, hlookup] at hf
  unfold NameLookup.value
  rw [h.idOf?_eq htable]

theorem shown_agree (h : first.AgreeBut hidden second) (hf : hidden ∉ f.tables)
    {rendering : Rendering} (hrendering : f.rendering = some rendering) (v : Value) :
    rendering.shown first v = rendering.shown second v := by
  cases rendering with
  | openEnd => rfl
  | name table key =>
    have htable : table ≠ hidden := by
      rintro rfl
      simp [tables, hrendering, Rendering.table?] at hf
    unfold Rendering.shown
    simp only [funext (h.get?_eq htable)]

/-- All functions for hosts read the interfaces, and no other table. -/
theorem computation_agree (h : first.AgreeBut hidden second) (hf : hidden ∉ f.tables)
    {computation : Computation} (hcomputation : f.computation = some computation) (id : Int64) :
    computation.value first id = computation.value second id := by
  have htable : interfacesTable ≠ hidden := by
    rintro rfl
    simp [tables, hcomputation] at hf
  have hinterfaces : first.interfacesOf id = second.interfacesOf id :=
    h.referring_eq htable "host" id
  have haddress (key : String) : first.primaryAddress id key = second.primaryAddress id key := by
    unfold Inventory.primaryAddress Inventory.primaryInterface?
    rw [hinterfaces]
  unfold Computation.value Functions.call hostFunctions
  simp only [hinterfaces, haddress]

/-- What is shown for a field is read from one table more at most, which the field knows. -/
theorem tables_shownField? {g : Field} (h : f.shownField? = some g) : g.tables ⊆ f.tables := by
  unfold shownField? at h
  split at h
  · next table key hcomputation hrendering =>
    cases h
    intro name hname
    simp only [tables, hrendering, hcomputation, Rendering.table?] at hname ⊢
    simp at hname ⊢
    grind
  · cases h

theorem tables_lengthField (f : Field) : f.lengthField.tables = [] := rfl

end Field

end InventoryQuery
