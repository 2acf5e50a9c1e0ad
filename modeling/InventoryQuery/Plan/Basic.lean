import InventoryQuery.Distinct
import InventoryQuery.Predicate.Basic

/-!
# Plans

A query with its names resolved: the fields to show, the conditions in the order in which they are
joined, and the length columns that some of them read.
-/

namespace InventoryQuery

structure Plan where
  fields : List Field
  conditions : List Condition
  /-- Each connective joins a condition to those before it. -/
  connectives : List Connective
  lengths : List LengthColumn
  deriving DecidableEq

namespace Plan

def predicate? (p : Plan) : Option Predicate :=
  Predicate.ofConditions? p.conditions p.connectives

/-- The requested fields, each token once. -/
def distinctFields (p : Plan) : List Field := firstsBy (·.token) p.fields

end Plan

end InventoryQuery
