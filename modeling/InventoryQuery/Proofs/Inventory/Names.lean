import InventoryQuery.Inventory.Document
import InventoryQuery.Plan.Lookup
import InventoryQuery.Proofs.Inventory.Index
import InventoryQuery.Proofs.Success
import Mathlib

/-!
# Names that are shown back

A literal that names a record stands for the id of the first record with the name, and an id is
shown by the name of the last record with the id.  So a name is shown back as it was entered exactly
if these two records bear it both, and they need not where an id is given twice.
-/

namespace InventoryQuery

/-! ## The records of a document -/

/-- A named part of what is read comes from a member of that name. -/
theorem exists_member_of_mapM {α : Type} {read : Json → Option α}
    {members : List (String × Json)} {parts : List (String × α)}
    (h : members.mapM (fun (name, json) ↦ return (name, ← read json)) = some parts)
    {name : String} {part : α} (hpart : (name, part) ∈ parts) :
    ∃ json, (name, json) ∈ members ∧ read json = some part := by
  obtain ⟨⟨member, json⟩, hmember, hread⟩ := exists_mem_of_forall₂ (mapM_eq_some_iff.1 h) hpart
  obtain ⟨value, hvalue, hpair⟩ := Option.bind_eq_some_iff.1 hread
  obtain ⟨rfl, rfl⟩ := Prod.mk.inj (Option.some.inj hpair)
  exact ⟨json, hmember, hvalue⟩

namespace Record

theorem mem_names_ofList {id : Int64} {attributes : List (String × Value)} {name : String} :
    name ∈ (ofList id attributes).attributes.map (·.1) ↔ name ∈ attributes.map (·.1) := by
  induction attributes using List.reverseRecOn with
  | nil => rfl
  | append_singleton before last ih =>
    have hset : name ∈ (ofList id (before ++ [last])).attributes.map (·.1) ↔
        name = last.1 ∨ name ∈ (ofList id before).attributes.map (·.1) := by
      rw [ofList, List.foldl_append]
      exact mem_names_setAttribute
    rw [hset, ih, List.map_append, List.mem_append, List.map_singleton, List.mem_singleton, or_comm]

/-- In a document the id of a record is none of its attributes. -/
theorem idName_notMem_names_of_ofJson? {json : Json} {r : Record} (h : ofJson? json = some r) :
    idName ∉ r.attributes.map (·.1) := by
  cases json with
  | object members =>
    simp only [ofJson?, Option.bind_eq_bind, Option.bind_eq_some_iff] at h
    obtain ⟨-, -, id, -, attributes, hattributes, hr⟩ := h
    obtain rfl : ofList id attributes = r := Option.some.inj hr
    rw [mem_names_ofList]
    intro hmem
    obtain ⟨⟨name, v⟩, hpair, hname⟩ := List.mem_map.1 hmem
    obtain ⟨value, hmember, -⟩ := exists_member_of_mapM hattributes hpair
    have hother : (name != idName) = true := (List.mem_filter.1 hmember).2
    exact bne_iff_ne.1 hother hname
  | _ => cases h

/-- What is read of a record under a name that is not that of its id is what is stored there. -/
theorem get?_eq_text_iff {r : Record} (hr : idName ∉ r.attributes.map (·.1)) {key text : String} :
    r.get? key = some (.text text) ↔ r.stores key (.text text) = true := by
  rw [stores_iff, get?]
  split
  · next hkey =>
    subst hkey
    have hlookup : r.attributes.lookup idName = none := lookup_eq_none_of_notMem hr
    simp [hlookup]
  · rfl

end Record

namespace Inventory

variable {inventory : Inventory}

theorem exists_json_of_tablesOfJson? {json : Json} (h : tablesOfJson? json = some inventory)
    {table : String} {r : Record} (hr : r ∈ inventory.records table) :
    ∃ json, Record.ofJson? json = some r := by
  cases json with
  | object members =>
    simp only [tablesOfJson?, Option.bind_eq_bind, Option.bind_eq_some_iff] at h
    obtain ⟨tables, htables, hinventory⟩ := h
    obtain rfl : ofTables tables = inventory := Option.some.inj hinventory
    rw [records_ofTables] at hr
    obtain ⟨records, hlisted, hmem⟩ := exists_listed_of_mem hr
    obtain ⟨json, -, hrecords⟩ := exists_member_of_mapM htables hlisted
    cases json with
    | array elements =>
      obtain ⟨element, -, helement⟩ := exists_mem_of_forall₂ (mapM_eq_some_iff.1 hrecords) hmem
      exact ⟨element, helement⟩
    | _ => cases hrecords
  | _ => cases h

/-- Every record of a document's inventory is one of the document's objects. -/
theorem exists_json_of_ofDocument? {text : String} (h : ofDocument? text = some inventory)
    {table : String} {r : Record} (hr : r ∈ inventory.records table) :
    ∃ json, Record.ofJson? json = some r := by
  obtain ⟨document, -, hdocument⟩ := Option.bind_eq_some_iff.1 h
  unfold ofJson? at hdocument
  split at hdocument
  · next members =>
    obtain ⟨tables, -, htables⟩ := Option.bind_eq_some_iff.1 hdocument
    exact exists_json_of_tablesOfJson? htables hr
  · exact exists_json_of_tablesOfJson? hdocument hr
  · cases hdocument

end Inventory

/-! ## Names and ids -/

section Names

variable {inventory : Inventory} {lookup : NameLookup}

theorem NameLookup.value_eq_ok_iff {token name : String} {v : Value} :
    lookup.value inventory token name = .ok v ↔
      ∃ named, (inventory.records lookup.table).find? (·.stores lookup.key (.text name)) =
        some named ∧ v = .int named.id := by
  unfold value Inventory.idOf?
  rw [Table.idOf?_eq]
  cases hfind : (inventory.table lookup.table).records.find?
      (·.stores lookup.key (.text name)) with
  | none => simp [Inventory.records, hfind]
  | some named => simp [Inventory.records, hfind, eq_comm]

theorem Rendering.shown_name_int {table key : String} {id : Int64} {last : Record}
    (hlast : (inventory.records table).reverse.find? (·.id = id) = some last) :
    (Rendering.name table key).shown inventory (.int id) = (last.get? key).getD (.int id) := by
  have hget : inventory.get? table id = some last := (Table.get?_eq _ id).trans hlast
  simp [shown, Value.asInt?, hget]

/-- In a record of a document a name that is shown is one that is stored. -/
theorem Rendering.shown_name_eq_text_iff {table key name : String} {id : Int64} {last : Record}
    (hlast : (inventory.records table).reverse.find? (·.id = id) = some last)
    (hid : Record.idName ∉ last.attributes.map (·.1)) :
    (Rendering.name table key).shown inventory (.int id) = .text name ↔
      last.stores key (.text name) = true := by
  rw [shown_name_int hlast, ← Record.get?_eq_text_iff hid]
  cases last.get? key with
  | none => simp
  | some shown => simp

theorem exists_find?_reverse_id {records : List Record} {named : Record} (hnamed : named ∈ records) :
    ∃ last, records.reverse.find? (·.id = named.id) = some last := by
  rw [← Option.isSome_iff_exists, List.find?_isSome]
  exact ⟨named, List.mem_reverse.2 hnamed, by simp⟩

/-- The last record with an id is the only one if no id is given twice. -/
theorem find?_reverse_id_of_nodup {records : List Record} (hdistinct : (records.map (·.id)).Nodup)
    {named last : Record} (hnamed : named ∈ records)
    (hlast : records.reverse.find? (·.id = named.id) = some last) : last = named := by
  have hmem : last ∈ records := List.mem_reverse.1 (List.mem_of_find?_eq_some hlast)
  have hid : last.id = named.id := by simpa using List.find?_some hlast
  exact List.inj_on_of_nodup_map hdistinct hmem hnamed hid

/-- A name that stands for a record is shown back if and only if the last record with the id of the
first record of that name has the name too; otherwise what that one has is shown, or the id.  In a
table in which no id is given twice every name is shown back. -/
theorem NameLookup.shown_value_iff {text : String}
    (hdocument : Inventory.ofDocument? text = some inventory) {token name : String} {v : Value}
    (hvalue : lookup.value inventory token name = .ok v) :
    ∃ named last,
      (inventory.records lookup.table).find? (·.stores lookup.key (.text name)) = some named ∧
      (inventory.records lookup.table).reverse.find? (·.id = named.id) = some last ∧
      v = .int named.id ∧
      (Rendering.name lookup.table lookup.key).shown inventory v =
        (last.get? lookup.key).getD v ∧
      ((Rendering.name lookup.table lookup.key).shown inventory v = .text name ↔
        last.stores lookup.key (.text name) = true) ∧
      (((inventory.records lookup.table).map (·.id)).Nodup →
        (Rendering.name lookup.table lookup.key).shown inventory v = .text name) := by
  obtain ⟨named, hnamed, rfl⟩ := value_eq_ok_iff.1 hvalue
  have hmem : named ∈ inventory.records lookup.table := List.mem_of_find?_eq_some hnamed
  obtain ⟨last, hlast⟩ := exists_find?_reverse_id hmem
  -- The last record is one of the document, so that what is read of it is what it stores.
  obtain ⟨json, hjson⟩ := Inventory.exists_json_of_ofDocument? hdocument
    (List.mem_reverse.1 (List.mem_of_find?_eq_some hlast))
  have hiff : (Rendering.name lookup.table lookup.key).shown inventory (.int named.id) =
      .text name ↔ last.stores lookup.key (.text name) = true :=
    Rendering.shown_name_eq_text_iff hlast (Record.idName_notMem_names_of_ofJson? hjson)
  refine ⟨named, last, hnamed, hlast, rfl, Rendering.shown_name_int hlast, hiff,
    fun hdistinct ↦ hiff.2 ?_⟩
  rw [find?_reverse_id_of_nodup hdistinct hmem hlast]
  simpa using List.find?_some hnamed

end Names

/-! ## An id that is given twice -/

/-- Two architectures with one id. -/
def sharedId : String :=
  "\x7b\x22tables\x22: \x7b\x22architectures\x22: [" ++
    "\x7b\x22id\x22: 1, \x22name\x22: \x22arm\x22\x7d, " ++
    "\x7b\x22id\x22: 1, \x22name\x22: \x22x86_64\x22\x7d]\x7d\x7d"

def architectureNames : NameLookup := ⟨"architectures", "name"⟩

theorem NameLookup.shown_value_of_sharedId :
    ∃ inventory, Inventory.ofDocument? sharedId = some inventory ∧
      architectureNames.value inventory "arch" "x86_64" = .ok (.int 1) ∧
      (Rendering.name "architectures" "name").shown inventory (.int 1) = .text "x86_64" := by
  have hread : (Inventory.ofDocument? sharedId).any (fun inventory ↦
      (architectureNames.value inventory "arch" "x86_64").toOption == some (.int 1) &&
        ((inventory.records "architectures").reverse.find? (·.id = 1)).any
          (·.stores "name" (.text "x86_64"))) = true := by
    cbv
  obtain ⟨inventory, hdocument, hfound⟩ := (Option.any_eq_true _ _).1 hread
  rw [Bool.and_eq_true, beq_iff_eq, toOption_eq_some_iff, Option.any_eq_true] at hfound
  obtain ⟨hvalue, last, hlast, hstores⟩ := hfound
  obtain ⟨named, last', -, hlast', hid, -, hiff, -⟩ := shown_value_iff hdocument hvalue
  obtain rfl : last = last' := by
    rw [← Value.int.inj hid] at hlast'
    exact Option.some.inj (hlast.symm.trans hlast')
  exact ⟨inventory, hdocument, hvalue, hiff.2 hstores⟩

/-- The first architecture is entered by its name and shown by that of the second. -/
theorem NameLookup.shown_value_arm :
    ∃ inventory, Inventory.ofDocument? sharedId = some inventory ∧
      architectureNames.value inventory "arch" "arm" = .ok (.int 1) ∧
      (Rendering.name "architectures" "name").shown inventory (.int 1) ≠ .text "arm" := by
  have hread : (Inventory.ofDocument? sharedId).any (fun inventory ↦
      (architectureNames.value inventory "arch" "arm").toOption == some (.int 1) &&
        (Rendering.name "architectures" "name").shown inventory (.int 1) == .text "x86_64") =
      true := by
    cbv
  obtain ⟨inventory, hdocument, hfound⟩ := (Option.any_eq_true _ _).1 hread
  rw [Bool.and_eq_true, beq_iff_eq, toOption_eq_some_iff, beq_iff_eq] at hfound
  obtain ⟨hvalue, hshown⟩ := hfound
  refine ⟨inventory, hdocument, hvalue, ?_⟩
  rw [hshown]
  simp

end InventoryQuery
