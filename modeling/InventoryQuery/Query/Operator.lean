import InventoryQuery.Kind
import InventoryQuery.Predicate.Test
import InventoryQuery.Text.Lines

/-!
# Operators

The symbols between a field and a value, and the test that each stands for on a field of a kind.
-/

namespace InventoryQuery

inductive Operator
  | equal
  | same
  | contains
  | startsWith
  | notEqual
  | greater
  | less
  | atLeast
  | atMost
  deriving DecidableEq

namespace Operator

def all : List Operator :=
  [.equal, .same, .contains, .startsWith, .notEqual, .greater, .less, .atLeast, .atMost]

def symbol : Operator → String
  | .equal => "="
  | .same => "=="
  | .contains => "=~"
  | .startsWith => "=*"
  | .notEqual => "!="
  | .greater => ">"
  | .less => "<"
  | .atLeast => ">="
  | .atMost => "<="

def ofSymbol? (symbol : String) : Option Operator := all.find? (·.symbol == symbol)

def symbols : String := Text.joined " " (all.map symbol)

def isOrdering : Operator → Bool
  | .greater | .less | .atLeast | .atMost => true
  | _ => false

/-- References and timestamps are equal only to themselves, and only ordered kinds are ordered. -/
def test? (op : Operator) (kind : Kind) : Option Test :=
  match op with
  | .equal | .same =>
    match kind with
    | .datetime | .reference => some .exact
    | _ => some .equal
  | .contains => some .contains
  | .startsWith => some .startsWith
  | .notEqual => some .notEqual
  | .greater => if kind.isOrdered then some .greater else none
  | .less => if kind.isOrdered then some .less else none
  | .atLeast => if kind.isOrdered then some .atLeast else none
  | .atMost => if kind.isOrdered then some .atMost else none

end Operator

end InventoryQuery
