import InventoryQuery.Value.Basic

/-!
# Records

A record has an id and named attributes.  No name is given twice, and the id can be read like an
attribute.
-/

namespace InventoryQuery

structure Record where
  id : Int64
  attributes : List (String × Value)
  distinct : (attributes.map (·.1)).Nodup

namespace Record

/-- The name under which the id of a record is read. -/
def idName : String := "id"

/-- The attributes with the value of one of them set, in its place if it has one. -/
def setAttribute (name : String) (value : Value) : List (String × Value) → List (String × Value)
  | [] => [(name, value)]
  | (other, kept) :: rest =>
    if other = name then (other, value) :: rest else (other, kept) :: setAttribute name value rest

theorem mem_names_setAttribute {name : String} {value : Value} {other : String}
    {attributes : List (String × Value)} :
    other ∈ (setAttribute name value attributes).map (·.1) ↔
      other = name ∨ other ∈ attributes.map (·.1) := by
  induction attributes with
  | nil => simp [setAttribute]
  | cons pair rest ih =>
    by_cases h : pair.1 = name
    · simp only [setAttribute, h, if_true, List.map_cons, List.mem_cons]
      grind
    · simp only [setAttribute, h, if_false, List.map_cons, List.mem_cons, ih]
      grind

theorem nodup_setAttribute {name : String} {value : Value} {attributes : List (String × Value)}
    (h : (attributes.map (·.1)).Nodup) :
    ((setAttribute name value attributes).map (·.1)).Nodup := by
  induction attributes with
  | nil => simp [setAttribute]
  | cons pair rest ih =>
    rw [List.map_cons, List.nodup_cons] at h
    by_cases hn : pair.1 = name
    · simpa only [setAttribute, hn, if_true, List.map_cons, List.nodup_cons] using
        ⟨hn ▸ h.1, h.2⟩
    · simp only [setAttribute, hn, if_false, List.map_cons, List.nodup_cons,
        mem_names_setAttribute]
      exact ⟨by grind, ih h.2⟩

def empty (id : Int64) : Record := ⟨id, [], by simp⟩

def set (r : Record) (name : String) (value : Value) : Record :=
  ⟨r.id, setAttribute name value r.attributes, nodup_setAttribute r.distinct⟩

/-- A record with the given attributes; of a name given twice the last value counts. -/
def ofList (id : Int64) (attributes : List (String × Value)) : Record :=
  attributes.foldl (fun r (name, value) ↦ r.set name value) (empty id)

def get? (r : Record) (name : String) : Option Value :=
  if name = idName then some (.int r.id) else r.attributes.lookup name

/-- The record that an attribute refers to, by its id. -/
def reference? (r : Record) (name : String) : Option Int64 := (r.get? name).bind Value.asInt?

end Record

end InventoryQuery
