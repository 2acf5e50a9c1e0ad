import InventoryQuery.Number.Binary64

/-!
# JSON

JSON values as they are written.  Numbers keep their digits, since an integer and a floating number
of the same size are different values of an inventory, and objects keep every member in order.
-/

namespace InventoryQuery

/-- A number as written.  A number without a point has no fraction digits, and one without a power
of ten has no exponent. -/
structure Json.Numeral where
  negative : Bool
  whole : List Char
  fraction : List Char
  exponent : Option Int
  deriving DecidableEq

inductive Json
  | null
  | bool (b : Bool)
  | number (n : Json.Numeral)
  | text (s : String)
  | array (elements : List Json)
  | object (members : List (String × Json))

namespace Json

def Numeral.isInteger (n : Numeral) : Bool := n.fraction.isEmpty && n.exponent.isNone

def ofInt (i : Int) : Json :=
  .number ⟨i < 0, Number.natText i.natAbs, [], none⟩

/-- The last member of that name. -/
def member? (name : String) : Json → Option Json
  | .object members => (members.reverse.find? (·.1 == name)).map (·.2)
  | _ => none

/-! ## Members by name -/

/-- The members in the order of their names, with the value given to a name already there. -/
def setMember (name : String) (value : Json) : List (String × Json) → List (String × Json)
  | [] => [(name, value)]
  | (other, kept) :: rest =>
    if name < other then (name, value) :: (other, kept) :: rest
    else if name == other then (name, value) :: rest
    else (other, kept) :: setMember name value rest

/-- An object with its members in the order of their names; of a repeated name the last counts. -/
def sortedObject (members : List (String × Json)) : Json :=
  .object (members.foldl (fun sorted (name, value) ↦ setMember name value sorted) [])

end Json

end InventoryQuery
