import InventoryQuery.Answer.Rows
import InventoryQuery.Catalog.Computed
import InventoryQuery.Plan.Lookup

/-!
# Answers

Rows as they are shown: computed fields filled in, references by their names, and the columns in
the order in which they were asked for.
-/

namespace InventoryQuery

/-- A token and a heading for every column, and the cells of every row in the same order. -/
structure Answer where
  header : List (String × String)
  rows : List Row

namespace Row

/-- A row without its first cell of a column, whose place the last cell takes, and the value of
that cell. -/
def take (row : Row) (column : String) : Option Value × Row :=
  match row.findIdx? (·.1 == column), row.getLast? with
  | some i, some last => ((row[i]?).map (·.2), (row.set i last).dropLast)
  | _, _ => (none, row)

def takeOrNull (row : Row) (column : String) : Value × Row :=
  let (v, rest) := row.take column
  (v.getD .null, rest)

end Row

namespace Answer

/-- The stored or computed value of a field for the record that a row is of, and what is left of
the row. -/
def rawCell [Functions] (inventory : Inventory) (id : Option Int64) (f : Field) (row : Row) : Value × Row :=
  match f.computation, id with
  | some computation, some id => (computation.value inventory id, row)
  | some _, none => (.null, row)
  | none, some id =>
    if f.token = Record.idName then (.int id, row) else row.takeOrNull f.token
  | none, none => row.takeOrNull f.token

def shownCell (inventory : Inventory) (f : Field) (v : Value) : Value :=
  match f.rendering with
  | none => v
  | some rendering => if v.isNull then v else rendering.shown inventory v

/-- The cells of distinct fields, each taken out of the row. -/
def shownCells [Functions] (inventory : Inventory) (id : Option Int64) : List Field → Row → Row
  | [], _ => []
  | f :: rest, row =>
    let (v, row) := rawCell inventory id f row
    (f.token, shownCell inventory f v) :: shownCells inventory id rest row

def ofRow [Functions] (p : Plan) (inventory : Inventory) (row : Row) : Row :=
  let (id, row) := row.take Record.idName
  let cells := shownCells inventory (id.bind Value.asInt?) p.distinctFields row
  p.fields.map fun f ↦ (f.token, cells.value f.token)

def ofRows [Functions] (p : Plan) (inventory : Inventory) (rows : List Row) : Answer where
  header := p.fields.map fun f ↦ (f.token, f.header)
  rows := rows.map (ofRow p inventory)

end Answer

end InventoryQuery
