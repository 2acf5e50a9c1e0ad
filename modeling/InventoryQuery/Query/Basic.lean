import InventoryQuery.Predicate.Basic
import InventoryQuery.Query.Operator
import InventoryQuery.Query.Span

/-!
# Queries

A query as written: the fields it asks for, and conditions that are joined from left to right.
Names are not resolved yet and values are texts.
-/

namespace InventoryQuery

/-- A condition as written.  A bare one asks whether a field is set, or unset if it is negated. -/
inductive Clause
  | comparison (field : Located String) (op : Located Operator) (value : Located String)
  | bare (field : Located String) (negated : Bool)
  deriving DecidableEq

namespace Clause

def field : Clause → Located String
  | .comparison field _ _ => field
  | .bare field _ => field

def toText : Clause → String
  | .comparison field op value =>
    field.value ++ " " ++ op.value.symbol ++ " " ++ Text.quoted value.value
  | .bare field negated => (if negated then "!" else "") ++ field.value

end Clause

/-- Conditions with a connective between each and the next. -/
structure Filter where
  first : Clause
  rest : List (Located Connective × Clause)
  deriving DecidableEq

structure Query where
  fields : List (Located String)
  filter : Option Filter
  span : Span
  deriving DecidableEq

namespace Query

def clauses (q : Query) : List Clause :=
  match q.filter with
  | none => []
  | some filter => filter.first :: filter.rest.map (·.2)

def connectives (q : Query) : List (Located Connective) :=
  match q.filter with
  | none => []
  | some filter => filter.rest.map (·.1)

end Query

end InventoryQuery
