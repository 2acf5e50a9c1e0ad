import InventoryQuery.Calendar.Timestamp
import InventoryQuery.Number.Literal
import InventoryQuery.Number.Shortest
import InventoryQuery.Text.Case

/-!
# Values

What an inventory stores and a query compares.  Values are dynamic: an attribute may hold anything
a document can, whatever the kind of the field that reads it.
-/

namespace InventoryQuery

/-- A timestamp has no zone; an instant is a timestamp in the universal one. -/
inductive Value
  | null
  | bool (b : Bool)
  | int (i : Int64)
  | float (x : Binary64)
  | text (s : String)
  | date (d : Date)
  | timestamp (t : Timestamp)
  | instant (t : Timestamp)
  deriving DecidableEq

namespace Value

def isNull : Value → Bool
  | .null => true
  | _ => false

def asBool? : Value → Option Bool
  | .bool b => some b
  | _ => none

def asInt? : Value → Option Int64
  | .int i => some i
  | _ => none

def asText? : Value → Option String
  | .text s => some s
  | _ => none

/-- The sentinel for an open end, as an instant or as a plain timestamp. -/
def openEnd (zoned : Bool) : Value :=
  if zoned then .instant .openEnd else .timestamp .openEnd

def isOpenEnd : Value → Bool
  | .timestamp t | .instant t => t = .openEnd
  | _ => false

/-! ## Text -/

/-- The text shown to people; nothing for null. -/
def toText : Value → String
  | .null => ""
  | .bool b => if b then "true" else "false"
  | .int i => String.ofList (Number.intText i.toInt)
  | .float x => x.toText
  | .text s => s
  | .date d => String.ofList d.toText
  | .timestamp t => String.ofList t.toText
  | .instant t => String.ofList (t.toText ++ ['+', '0', '0', ':', '0', '0'])

/-- The text that substring and prefix tests read. -/
def textForm? (v : Value) : Option String := if v.isNull then none else some v.toText

/-- How many characters the text form has. -/
def charLength (v : Value) : Value :=
  match v.textForm? with
  | some s => .int (Int64.ofNat s.length)
  | none => .null

/-! ## Order -/

/-- The order of two values, if they are comparable.  Integers are compared with floating numbers
as the floating numbers nearest to them, and timestamps with instants as if they had their zone. -/
def compare : Value → Value → Option Ordering
  | .null, .null => some .eq
  | .bool a, .bool b => some (Ord.compare a.toNat b.toNat)
  | .int a, .int b => some (Ord.compare a.toInt b.toInt)
  | .int a, .float b => (Binary64.ofInt a.toInt).compare b
  | .float a, .int b => a.compare (.ofInt b.toInt)
  | .float a, .float b => a.compare b
  | .text a, .text b => some (Ord.compare a b)
  | .date a, .date b => some (a.compare b)
  | .timestamp a, .timestamp b | .timestamp a, .instant b
  | .instant a, .timestamp b | .instant a, .instant b => some (a.compare b)
  | _, _ => none

/-- Equality that ignores the case of letters. -/
def equalIgnoringCase : Value → Value → Bool
  | .text a, .text b => Text.lowercase a == Text.lowercase b
  | a, b => a.compare b == some .eq

end Value

end InventoryQuery
