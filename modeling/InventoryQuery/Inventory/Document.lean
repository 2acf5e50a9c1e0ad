import InventoryQuery.Inventory.Basic
import InventoryQuery.Json.Reader
import InventoryQuery.Number.Scaled

/-!
# Inventory documents

An inventory as a JSON document: an object whose member `tables` holds an array of records for each
table.  A record is an object with an integer `id`; its other members are its attributes.  Whatever
else the document holds is passed by.
-/

namespace InventoryQuery

namespace Json

/-- An integer is one if it is written as one and fits in 64 bits; negative zero is none. -/
def Numeral.toInt64? (n : Numeral) : Option Int64 :=
  let size := Number.ofDigits n.whole
  if n.isInteger && !(n.negative && size == 0) then
    Number.toInt64? (Number.signed n.negative size)
  else none

def Numeral.toBinary64? (n : Numeral) : Option Binary64 :=
  Number.ofParts? n.negative n.whole n.fraction (n.exponent.getD 0)

def toInt64? : Json → Option Int64
  | .number n => n.toInt64?
  | _ => none

/-- The value of an attribute; arrays and objects are none, nor are numbers out of range. -/
def toValue? : Json → Option Value
  | .null => some .null
  | .bool b => some (.bool b)
  | .number n =>
    match n.toInt64? with
    | some i => some (.int i)
    | none => n.toBinary64?.map .float
  | .text s => some (.text s)
  | .array _ | .object _ => none

/-- The one member of that name. -/
def uniqueMember? (name : String) (members : List (String × Json)) : Option Json :=
  match members.filter (·.1 == name) with
  | [(_, value)] => some value
  | _ => none

end Json

/-- The record that an object stands for. -/
def Record.ofJson? : Json → Option Record
  | .object members => do
    let id ← (← Json.uniqueMember? Record.idName members).toInt64?
    let attributes ← (members.filter (·.1 != Record.idName)).mapM fun (name, json) ↦
      return (name, ← json.toValue?)
    return .ofList id attributes
  | _ => none

namespace Inventory

def tablesName : String := "tables"

def recordsOfJson? : Json → Option (List Record)
  | .array records => records.mapM Record.ofJson?
  | _ => none

def tablesOfJson? : Json → Option Inventory
  | .object tables => do
    return .ofTables (← tables.mapM fun (name, json) ↦ return (name, ← recordsOfJson? json))
  | _ => none

/-- The inventory that a document stands for.  The tables may also be the only element of an
array. -/
def ofJson? : Json → Option Inventory
  | .object members => (Json.uniqueMember? tablesName members).bind tablesOfJson?
  | .array [tables] => tablesOfJson? tables
  | _ => none

def ofDocument? (text : String) : Option Inventory :=
  (Json.readFor (.member tablesName) text.toList).bind ofJson?

end Inventory

end InventoryQuery
