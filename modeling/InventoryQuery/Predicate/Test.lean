import InventoryQuery.Value.Basic

/-!
# Tests

How a condition compares a stored value with a given one.
-/

namespace InventoryQuery

/-- Tests on text ignore case, apart from the exact one. -/
inductive Test
  | equal
  | exact
  | contains
  | startsWith
  | notEqual
  | greater
  | less
  | atLeast
  | atMost
  | isNull
  deriving DecidableEq

namespace Test

def all : List Test :=
  [.equal, .exact, .contains, .startsWith, .notEqual, .greater, .less, .atLeast, .atMost, .isNull]

/-- How the test is written after the column that it reads. -/
def suffix : Test → String
  | .equal => "__iexact"
  | .exact => "__exact"
  | .contains => "__icontains"
  | .startsWith => "__istartswith"
  | .notEqual => "__ne"
  | .greater => "__gt"
  | .less => "__lt"
  | .atLeast => "__gte"
  | .atMost => "__lte"
  | .isNull => "__isnull"

def ofSuffix? (suffix : String) : Option Test := all.find? (·.suffix == suffix)

end Test

namespace Text

/-- Whether a text occurs somewhere in another. -/
def occursIn (part : List Char) : List Char → Bool
  | [] => part.isEmpty
  | c :: rest => part.isPrefixOf (c :: rest) || occursIn part rest

end Text

namespace Value

/-- A test of the lower-cased text forms; null has none and passes no such test. -/
def textTest (relation : List Char → List Char → Bool) (stored given : Value) : Bool :=
  match stored.textForm?, given.textForm? with
  | some s, some g => relation (Text.lower g.toList) (Text.lower s.toList)
  | _, _ => false

def orderTest (accepts : Ordering → Bool) (stored given : Value) : Bool :=
  (stored.compare given).any accepts

/-- Null passes the null test, counts as different from everything, and passes nothing else. -/
def passes (stored : Value) (test : Test) (given : Value) : Bool :=
  match test with
  | .isNull => stored.isNull == given.asBool?.getD true
  | .notEqual => stored.isNull || !stored.equalIgnoringCase given
  | .equal => !stored.isNull && stored.equalIgnoringCase given
  | .exact => !stored.isNull && orderTest Ordering.isEq stored given
  | .contains => textTest Text.occursIn stored given
  | .startsWith => textTest List.isPrefixOf stored given
  | .greater => !stored.isNull && orderTest Ordering.isGT stored given
  | .less => !stored.isNull && orderTest Ordering.isLT stored given
  | .atLeast => !stored.isNull && orderTest Ordering.isGE stored given
  | .atMost => !stored.isNull && orderTest Ordering.isLE stored given

end Value

end InventoryQuery
