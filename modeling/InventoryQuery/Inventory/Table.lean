import InventoryQuery.Inventory.Record
import Std.Data.TreeMap

/-!
# Tables

Records in stored order with an index built from them, through which records are found by their
id, by the exact text of an attribute, and by the id that an attribute refers to.  Ids and texts
may repeat: the last record of an id and the first record of a text count.
-/

namespace InventoryQuery

namespace Table

/-- What is known of a list of records without going through them. -/
structure Index where
  /-- The last record of every id. -/
  latest : Std.TreeMap Int64 Record
  /-- For every attribute, the id of the first record with a text. -/
  named : Std.TreeMap String (Std.TreeMap String Int64)
  /-- For every attribute, the records that refer to an id, in stored order. -/
  referring : Std.TreeMap String (Std.TreeMap Int64 (List Record))

namespace Index

def empty : Index := ⟨∅, ∅, ∅⟩

/-- The index after an attribute of a record was put before all that is in it. -/
def addAttribute (record : Record) (key : String) (value : Value) (index : Index) : Index :=
  match value with
  | .text text =>
    { index with
      named := index.named.insert key ((index.named.getD key ∅).insert text record.id) }
  | .int id =>
    let known := index.referring.getD key ∅
    { index with
      referring := index.referring.insert key (known.insert id (record :: known.getD id [])) }
  | _ => index

/-- The index after a record was put before all that are in it. -/
def add (record : Record) (index : Index) : Index :=
  let index := { index with latest := index.latest.insertIfNew record.id record }
  record.attributes.foldl (fun index (key, value) ↦ index.addAttribute record key value) index

/-- The index of a list of records, built from its end. -/
def ofRecords (records : List Record) : Index := records.foldr add empty

end Index

end Table

structure Table where
  records : List Record
  index : Table.Index
  indexed : index = .ofRecords records

namespace Table

def ofRecords (records : List Record) : Table := ⟨records, _, rfl⟩

def get? (t : Table) (id : Int64) : Option Record := t.index.latest[id]?

/-- The id of the first record whose attribute is exactly a text. -/
def idOf? (t : Table) (key text : String) : Option Int64 :=
  (t.index.named.getD key ∅)[text]?

/-- The records whose attribute refers to an id, in stored order. -/
def referring (t : Table) (key : String) (id : Int64) : List Record :=
  (t.index.referring.getD key ∅).getD id []

end Table

end InventoryQuery
