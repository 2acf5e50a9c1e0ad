import InventoryQuery.Field
import InventoryQuery.Predicate.Test
import InventoryQuery.Text.Quoted
import InventoryQuery.Text.Words

/-!
# Predicates

Conditions joined from left to right, without precedence, and what they ask of a row of values.
-/

namespace InventoryQuery

structure Condition where
  field : Field
  test : Test
  given : Value
  deriving DecidableEq

inductive Connective
  | and
  | or
  deriving DecidableEq

namespace Connective

def word : Connective → String
  | .and => "AND"
  | .or => "OR"

/-- The connective that a word is, in any case. -/
def ofWord? (word : String) : Option Connective :=
  if Text.equalIgnoringAsciiCase word "and" then some .and
  else if Text.equalIgnoringAsciiCase word "or" then some .or
  else none

def combine : Connective → Bool → Bool → Bool
  | .and, a, b => a && b
  | .or, a, b => a || b

end Connective

/-- Values by column; of a column given twice the first value counts. -/
abbrev Row := List (String × Value)

namespace Row

/-- A column that is not there reads as null. -/
def value (row : Row) (column : String) : Value := (row.lookup column).getD .null

end Row

namespace Condition

def column (c : Condition) : String := c.field.column

def holds (c : Condition) (row : Row) : Bool := (row.value c.column).passes c.test c.given

def toText (c : Condition) : String :=
  let given :=
    match c.given with
    | .null => "null"
    | .text s => Text.quoted s
    | v => v.toText
  c.column ++ c.test.suffix ++ "=" ++ given

end Condition

inductive Predicate
  | condition (c : Condition)
  | join (connective : Connective) (left right : Predicate)
  deriving DecidableEq

namespace Predicate

/-- The truth of the predicate, given that of its conditions. -/
def eval (judge : Condition → Bool) : Predicate → Bool
  | .condition c => judge c
  | .join connective left right => connective.combine (left.eval judge) (right.eval judge)

def holds (p : Predicate) (row : Row) : Bool := p.eval (·.holds row)

def conditions : Predicate → List Condition
  | .condition c => [c]
  | .join _ left right => left.conditions ++ right.conditions

/-- The columns that the predicate reads, in order. -/
def columns (p : Predicate) : List String := Text.sortedWords (p.conditions.map (·.column))

def toText : Predicate → String
  | .condition c => c.toText
  | .join connective left right =>
    "(" ++ left.toText ++ " " ++ connective.word ++ " " ++ right.toText ++ ")"

/-- Every condition joined to all that is before it.  Without a condition there is no predicate;
a condition without a connective before it is left out, and so is a connective too many. -/
def ofConditions? (conditions : List Condition) (connectives : List Connective) :
    Option Predicate :=
  match conditions with
  | [] => none
  | first :: rest =>
    some ((rest.zip connectives).foldl (fun p (c, connective) ↦ .join connective p (.condition c))
      (.condition first))

end Predicate

end InventoryQuery
