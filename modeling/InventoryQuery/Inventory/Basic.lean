import InventoryQuery.Inventory.Table

/-!
# Inventories

Tables by name.  A table that is not there holds no records.
-/

namespace InventoryQuery

structure Inventory where
  tables : Std.TreeMap String Table

namespace Inventory

def empty : Inventory := ⟨∅⟩

/-- An inventory of named lists of records; of a name given twice the last list counts. -/
def ofTables (tables : List (String × List Record)) : Inventory :=
  ⟨tables.foldl (fun known (name, records) ↦ known.insert name (.ofRecords records)) ∅⟩

def table (inventory : Inventory) (name : String) : Table :=
  inventory.tables.getD name (.ofRecords [])

def records (inventory : Inventory) (table : String) : List Record :=
  (inventory.table table).records

def get? (inventory : Inventory) (table : String) (id : Int64) : Option Record :=
  (inventory.table table).get? id

def idOf? (inventory : Inventory) (table key text : String) : Option Int64 :=
  (inventory.table table).idOf? key text

def referring (inventory : Inventory) (table key : String) (id : Int64) : List Record :=
  (inventory.table table).referring key id

end Inventory

end InventoryQuery
