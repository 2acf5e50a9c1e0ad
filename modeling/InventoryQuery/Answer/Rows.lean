import InventoryQuery.Fault
import InventoryQuery.Inventory.Scope
import InventoryQuery.Plan.Basic

/-!
# Rows

The records of a scope that a plan is about, each as a row of stored values.
-/

namespace InventoryQuery

/-- The record at the end of a path; none if a reference is missing or leads nowhere. -/
def Inventory.follow (inventory : Inventory) (record : Record) (path : List Hop) : Option Record :=
  path.foldlM (fun r hop ↦ (r.reference? hop.key).bind (inventory.get? hop.table)) record

/-- The value of a stored field for a record, in the form of the field's kind.  A computed field
has no stored value. -/
def Field.read (inventory : Inventory) (record : Record) (f : Field) : Value :=
  if f.isComputed then .null
  else
    match inventory.follow record f.path with
    | none => .null
    | some r => ((r.get? f.key).getD .null).coerce f.kind

def LengthColumn.read (inventory : Inventory) (record : Record) (column : LengthColumn) : Value :=
  (column.source.read inventory record).charLength

namespace Plan

/-- A row with a value for a column, unless it has one. -/
def addColumn (inventory : Inventory) (record : Record) (row : Row) (c : Condition) : Row :=
  if row.any (·.1 == c.column) then row
  else row ++ [(c.column, c.field.read inventory record)]

/-- What the conditions read of a record: the length columns, then the columns of fields. -/
def evaluationRow (p : Plan) (inventory : Inventory) (record : Record) : Row :=
  p.conditions.foldl (addColumn inventory record)
    (p.lengths.map fun column ↦ (column.name, column.read inventory record))

def selects (p : Plan) (inventory : Inventory) (record : Record) : Bool :=
  match p.predicate? with
  | none => true
  | some predicate => predicate.holds (p.evaluationRow inventory record)

/-- The requested fields that are read from the store, apart from the id. -/
def storedFields (p : Plan) : List Field :=
  p.distinctFields.filter fun f ↦ !f.isComputed && f.token != Record.idName

def row (p : Plan) (inventory : Inventory) (record : Record) : Row :=
  (Record.idName, .int record.id) ::
    p.storedFields.map fun f ↦ (f.token, f.read inventory record)

/-- The first computed field that a condition depends on. -/
def computedCondition? (p : Plan) : Option Field :=
  (p.conditions.map (·.field) ++ p.lengths.map (·.source)).find? (·.isComputed)

/-- The rows of the selected records; of the records with one id only the first counts. -/
def rows (p : Plan) (scope : Scope) : Except Fault (List Row) :=
  match p.computedCondition? with
  | some f => .error (.computedField f.token)
  | none =>
    match (firstsBy (·.id) scope.records).filter (p.selects scope.inventory) with
    | [] => .error .noResults
    | records => .ok (records.map (p.row scope.inventory))

end Plan

end InventoryQuery
