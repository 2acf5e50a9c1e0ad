import InventoryQuery.Calendar.Literal
import InventoryQuery.Kind
import InventoryQuery.Text.Blank
import InventoryQuery.Value.Basic

/-!
# Literals and stored forms

How a text is read as a value of a kind: strictly for a literal in a query, and leniently for a
stored value, which stays as it is when it does not fit.
-/

namespace InventoryQuery

/-- Why a text is no literal of a kind. -/
inductive LiteralFault
  | boolean
  | number
  | recordId
  | date
  | timestamp
  deriving DecidableEq

def LiteralFault.message : LiteralFault → String
  | .boolean => "expected true or false"
  | .number => "expected a number"
  | .recordId => "expected a record id"
  | .date => "expected a date as YYYY-MM-DD"
  | .timestamp => "expected a timestamp as YYYY-MM-DD[ HH:MM[:SS]]"

namespace Value

def readBool (s : String) : Option Bool :=
  let word := Text.lowercase (Text.trimmed s)
  if word == "true" || word == "yes" || word == "on" || word == "1" then some true
  else if word == "false" || word == "no" || word == "off" || word == "0" then some false
  else none

/-- An integer if it is one and fits, else a floating number. -/
def readNumber (s : String) : Option Value :=
  let text := Text.trim s.toList
  match Number.readInt64 text with
  | some i => some (.int i)
  | none => (Number.readBinary64 text).map .float

def readDate (s : String) : Option Date := Calendar.readDate (Text.trim s.toList)

/-- A text with a zone reads as an instant and one without as a timestamp. -/
def readMoment (s : String) : Option Value :=
  let text := Text.trim s.toList
  match Calendar.readInstant text with
  | some t => some (.instant t)
  | none => (Calendar.readTimestamp text).map .timestamp

/-- The literal of a kind that a text in a query stands for. -/
def ofLiteral (kind : Kind) (s : String) : Except LiteralFault Value :=
  match kind with
  | .text | .longText => .ok (.text s)
  | .boolean => ((readBool s).map .bool).elim (.error .boolean) .ok
  | .numeric => (readNumber s).elim (.error .number) .ok
  | .reference => ((Number.readInt64 (Text.trim s.toList)).map .int).elim (.error .recordId) .ok
  | .date => ((readDate s).map .date).elim (.error .date) .ok
  | .datetime => (readMoment s).elim (.error .timestamp) .ok

/-- The value that a stored one stands for in a field of a kind; one that cannot be converted is
left unchanged. -/
def coerce (kind : Kind) (v : Value) : Value :=
  match kind, v with
  | .boolean, .int i => .bool (i != 0)
  | .boolean, .text s => ((readBool s).map .bool).getD v
  | .numeric, .text s => (readNumber s).getD v
  | .date, .text s => ((readDate s).map .date).getD v
  | .date, .timestamp t => .date t.date
  | .datetime, .text s => (readMoment s).getD v
  | .datetime, .date d => .timestamp (.midnight d)
  | _, _ => v

end Value

end InventoryQuery
