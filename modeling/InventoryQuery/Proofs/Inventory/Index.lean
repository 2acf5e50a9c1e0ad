import InventoryQuery.Proofs.Inventory.Agreement
import Mathlib.Data.List.Induction
import Mathlib.Data.List.Nodup

/-!
# Look-ups and the records they find

Records are found through an index that is filled once, record by record and attribute by attribute.
What it finds is what going through the records would find: the last one with an id, the first one
with a text, and all that refer to an id, in their order.
-/

namespace InventoryQuery

/-- The attribute of that name is this very value. -/
def Record.stores (r : Record) (key : String) (v : Value) : Bool :=
  r.attributes.lookup key == some v

theorem Record.stores_iff {r : Record} {key : String} {v : Value} :
    r.stores key v = true ↔ r.attributes.lookup key = some v := beq_iff_eq

theorem lookup_eq_none_of_notMem {attributes : List (String × Value)} {key : String}
    (h : key ∉ attributes.map (·.1)) : attributes.lookup key = none := by
  rw [List.lookup_eq_none_iff]
  intro pair hpair
  simpa using fun hname : key = pair.1 ↦ h (List.mem_map.2 ⟨pair, hpair, hname.symm⟩)

namespace Table

namespace Index

/-! ## What an index knows -/

def idOf? (index : Index) (key text : String) : Option Int64 := (index.named.getD key ∅)[text]?

def referringTo (index : Index) (key : String) (id : Int64) : List Record :=
  (index.referring.getD key ∅).getD id []

/-! ## One attribute more -/

section Attribute

variable (record : Record) (index : Index) (name key : String) (v : Value)

theorem latest_addAttribute : (index.addAttribute record name v).latest = index.latest := by
  cases v <;> rfl

theorem idOf?_addAttribute (text : String) :
    (index.addAttribute record name v).idOf? key text =
      if name = key ∧ v = .text text then some record.id else index.idOf? key text := by
  cases v with
  | text other =>
    simp only [addAttribute, idOf?, Std.TreeMap.getD_insert, Std.LawfulEqCmp.compare_eq_iff_eq]
    by_cases hname : name = key
    · simp only [hname, if_true, Std.TreeMap.getElem?_insert, Std.LawfulEqCmp.compare_eq_iff_eq,
        true_and, Value.text.injEq]
    · simp only [hname, if_false, false_and]
  | _ => simp [addAttribute, idOf?]

theorem referringTo_addAttribute (id : Int64) :
    (index.addAttribute record name v).referringTo key id =
      if name = key ∧ v = .int id then record :: index.referringTo key id
      else index.referringTo key id := by
  cases v with
  | int other =>
    simp only [addAttribute, referringTo, Std.TreeMap.getD_insert,
      Std.LawfulEqCmp.compare_eq_iff_eq]
    by_cases hname : name = key
    · simp only [hname, if_true, Std.TreeMap.getD_insert, Std.LawfulEqCmp.compare_eq_iff_eq,
        true_and, Value.int.injEq]
      by_cases hid : other = id
      · simp only [hid, if_true]
      · simp only [hid, if_false]
    · simp only [hname, if_false, false_and]
  | _ => simp [addAttribute, referringTo]

end Attribute

/-! ## One record more -/

/-- What all attributes of a record change in a view of the index.  No name is given twice, so only
one of them can be the wanted one. -/
theorem view_foldl_addAttribute {α : Type} (view : Index → α) (change : α → α) {record : Record}
    {key : String} {wanted : Value}
    (hstep : ∀ (index : Index) name v, view (index.addAttribute record name v) =
      if name = key ∧ v = wanted then change (view index) else view index)
    {attributes : List (String × Value)} (hdistinct : (attributes.map (·.1)).Nodup)
    (index : Index) :
    view (attributes.foldl (fun index (name, v) ↦ index.addAttribute record name v) index) =
      if attributes.lookup key = some wanted then change (view index) else view index := by
  induction attributes generalizing index with
  | nil => rfl
  | cons pair rest ih =>
    obtain ⟨name, v⟩ := pair
    obtain ⟨hfresh, hrest⟩ := List.nodup_cons.1 hdistinct
    rw [List.foldl_cons, ih hrest, hstep, List.lookup_cons]
    by_cases hname : name = key
    · subst hname
      have habsent : rest.lookup name = none := lookup_eq_none_of_notMem hfresh
      simp [habsent]
    · have hbeq : (key == name) = false := by simpa using Ne.symm hname
      simp [hname, hbeq]

theorem latest_foldl_addAttribute (record : Record) (attributes : List (String × Value))
    (index : Index) :
    (attributes.foldl (fun index (name, v) ↦ index.addAttribute record name v) index).latest =
      index.latest := by
  induction attributes generalizing index with
  | nil => rfl
  | cons pair rest ih => rw [List.foldl_cons, ih, latest_addAttribute]

section Record

variable (record : Record) (index : Index)

/-- A record that is there already stays, since it comes after the one that is added. -/
theorem getElem?_latest_add (id : Int64) :
    (index.add record).latest[id]? =
      index.latest[id]?.or (if record.id = id then some record else none) := by
  unfold add
  rw [latest_foldl_addAttribute, Std.TreeMap.getElem?_insertIfNew]
  simp only [Std.TreeMap.mem_iff_isSome_getElem?, Std.LawfulEqCmp.compare_eq_iff_eq]
  by_cases hid : record.id = id
  · rw [hid]
    cases index.latest[id]? with
    | none => simp
    | some known => simp
  · simp [hid]

theorem idOf?_add (key text : String) :
    (index.add record).idOf? key text =
      if record.stores key (.text text) then some record.id else index.idOf? key text := by
  have hview := view_foldl_addAttribute (fun index ↦ index.idOf? key text)
    (fun _ ↦ some record.id) (fun index name v ↦ idOf?_addAttribute record index name key v text)
    record.distinct
  simp only [Record.stores_iff]
  exact hview _

theorem referringTo_add (key : String) (id : Int64) :
    (index.add record).referringTo key id =
      if record.stores key (.int id) then record :: index.referringTo key id
      else index.referringTo key id := by
  have hview := view_foldl_addAttribute (fun index ↦ index.referringTo key id) (record :: ·)
    (fun index name v ↦ referringTo_addAttribute record index name key v id) record.distinct
  simp only [Record.stores_iff]
  exact hview _

end Record

/-! ## All records -/

section Records

variable (records : List Record)

theorem ofRecords_cons (record : Record) :
    ofRecords (record :: records) = (ofRecords records).add record := rfl

theorem getElem?_latest_ofRecords (id : Int64) :
    (ofRecords records).latest[id]? = records.reverse.find? (·.id = id) := by
  induction records with
  | nil => rfl
  | cons record rest ih =>
    have hfirst : (if record.id = id then some record else none) = [record].find? (·.id = id) := by
      by_cases hid : record.id = id
      · simp [hid]
      · simp [hid]
    calc
      (ofRecords (record :: rest)).latest[id]? =
          (ofRecords rest).latest[id]?.or (if record.id = id then some record else none) := by
        rw [ofRecords_cons, getElem?_latest_add]
      _ = (rest.reverse.find? (·.id = id)).or ([record].find? (·.id = id)) := by
        rw [ih, hfirst]
      _ = (record :: rest).reverse.find? (·.id = id) := by
        rw [List.reverse_cons, List.find?_append]

theorem idOf?_ofRecords (key text : String) :
    (ofRecords records).idOf? key text =
      (records.find? (·.stores key (.text text))).map (·.id) := by
  induction records with
  | nil => rfl
  | cons record rest ih =>
    rw [ofRecords_cons, idOf?_add, ih, List.find?_cons]
    cases record.stores key (.text text) with
    | true => rfl
    | false => rfl

theorem referringTo_ofRecords (key : String) (id : Int64) :
    (ofRecords records).referringTo key id = records.filter (·.stores key (.int id)) := by
  induction records with
  | nil => rfl
  | cons record rest ih =>
    rw [ofRecords_cons, referringTo_add, ih, List.filter_cons]

end Records

end Index

/-! ## Tables -/

variable (t : Table)

/-- Of the records with an id the last one is found. -/
theorem get?_eq (id : Int64) : t.get? id = t.records.reverse.find? (·.id = id) := by
  rw [get?, t.indexed, Index.getElem?_latest_ofRecords]

theorem idOf?_eq (key text : String) :
    t.idOf? key text = (t.records.find? (·.stores key (.text text))).map (·.id) := by
  rw [← Index.idOf?_ofRecords, ← t.indexed]
  rfl

theorem referring_eq (key : String) (id : Int64) :
    t.referring key id = t.records.filter (·.stores key (.int id)) := by
  rw [← Index.referringTo_ofRecords, ← t.indexed]
  rfl

end Table

/-! ## Inventories -/

namespace Inventory

/-- The records that are listed for a table: those of the last list with its name. -/
def listed (tables : List (String × List Record)) (table : String) : List Record :=
  (tables.reverse.lookup table).getD []

theorem exists_listed_of_mem {tables : List (String × List Record)} {table : String} {r : Record}
    (hr : r ∈ listed tables table) : ∃ records, (table, records) ∈ tables ∧ r ∈ records := by
  unfold listed at hr
  cases hlookup : tables.reverse.lookup table with
  | none => simp [hlookup] at hr
  | some records =>
    obtain ⟨before, after, hsplit, -⟩ := List.lookup_eq_some_iff.1 hlookup
    refine ⟨records, List.mem_reverse.1 ?_, by simpa [hlookup] using hr⟩
    simp [hsplit]

theorem records_ofTables (tables : List (String × List Record)) (table : String) :
    (ofTables tables).records table = listed tables table := by
  induction tables using List.reverseRecOn with
  | nil => rfl
  | append_singleton before last ih =>
    obtain ⟨name, records⟩ := last
    rw [records_ofTables_append, ih]
    unfold listed
    rw [List.reverse_append, List.reverse_singleton, List.singleton_append, List.lookup_cons]
    by_cases hname : name = table
    · simp [hname]
    · have hbeq : (table == name) = false := by simpa using Ne.symm hname
      simp [hname, hbeq]

/-- Look-ups find what going through the listed records finds: by an id the last record with it, by
the text of an attribute the id of the first record with it, and by a reference all records that
have it, in their order. -/
theorem lookups_ofTables (tables : List (String × List Record)) (table : String) :
    (∀ id, (ofTables tables).get? table id =
      (listed tables table).reverse.find? (·.id = id)) ∧
    (∀ key text, (ofTables tables).idOf? table key text =
      ((listed tables table).find? (·.stores key (.text text))).map (·.id)) ∧
    ∀ key id, (ofTables tables).referring table key id =
      (listed tables table).filter (·.stores key (.int id)) := by
  have hrecords : ((ofTables tables).table table).records = listed tables table :=
    records_ofTables tables table
  rw [← hrecords]
  exact ⟨Table.get?_eq _, Table.idOf?_eq _, Table.referring_eq _⟩

end Inventory

end InventoryQuery
