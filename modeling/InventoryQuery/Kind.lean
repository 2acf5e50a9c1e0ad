/-!
# Field kinds

What the values of a field stand for.  The kind of a field decides which operators apply to it,
how literals for it are read, and what a bare condition on it asks.
-/

namespace InventoryQuery

inductive Kind
  | boolean
  | text
  | longText
  | reference
  | date
  | datetime
  | numeric
  deriving DecidableEq

namespace Kind

def all : List Kind := [.boolean, .text, .longText, .reference, .date, .datetime, .numeric]

def name : Kind → String
  | .boolean => "boolean"
  | .text => "text"
  | .longText => "long text"
  | .reference => "reference"
  | .date => "date"
  | .datetime => "datetime"
  | .numeric => "numeric"

def ofName? (name : String) : Option Kind := all.find? (·.name == name)

def isTextual : Kind → Bool
  | .text | .longText => true
  | _ => false

/-- The kinds whose values are put in order by `>`, `<`, `>=` and `<=`. -/
def isOrdered : Kind → Bool
  | .numeric | .date | .datetime => true
  | _ => false

end Kind

end InventoryQuery
