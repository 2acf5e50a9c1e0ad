import InventoryQuery.Answer.Basic
import InventoryQuery.Diagnostic
import InventoryQuery.Plan.Compile
import InventoryQuery.Query.Parser

/-!
# Answering queries

From the text of a query to its answer over a scope, and everything that can go wrong between.
-/

namespace InventoryQuery

inductive QueryError
  | form (e : FormError)
  | plan (e : PlanError)
  | answer (fault : Fault)
  deriving DecidableEq

/-- What a caller tells apart. -/
inductive Outcome
  | malformed
  | unknownField
  | unsupported
  | empty
  deriving DecidableEq

namespace QueryError

def outcome : QueryError → Outcome
  | .form _ => .malformed
  | .plan e =>
    match e.value with
    | .unknownField .. => .unknownField
    | .computedField _ => .unsupported
    | .invalidOperator .. | .invalidValue _ => .malformed
  | .answer fault =>
    match fault with
    | .unknownField _ => .unknownField
    | .computedField _ => .unsupported
    | .invalidValue .. => .malformed
    | .noResults => .empty

def message : QueryError → String
  | .form e => "syntax error: " ++ e.value.message
  | .plan e => e.value.message
  | .answer fault => fault.message

def span? : QueryError → Option Span
  | .form e => some e.span
  | .plan e => some e.span
  | .answer _ => none

end QueryError

namespace FormFault

def diagnostic (e : FormError) : Diagnostic := ⟨"error", e.value.message, e.span, e.value.hint?⟩

end FormFault

namespace PlanFault

def diagnostic (e : PlanError) : Diagnostic :=
  ⟨"error[" ++ e.value.label ++ "]", e.value.message, e.span, none⟩

end PlanFault

/-- The error as it is shown beside the text of the query. -/
def QueryError.render (e : QueryError) (source : String) : String :=
  match e with
  | .form e => (FormFault.diagnostic e).render source
  | .plan e => (PlanFault.diagnostic e).render source
  | .answer fault => "error: " ++ fault.message ++ "\n"

namespace Plan

def ofSource (c : Catalog) (inventory : Inventory) (source : String) : Except QueryError Plan := do
  let query ← (Query.read source).mapError .form
  (ofQuery c inventory query).mapError .plan

def answer [Functions] (p : Plan) (scope : Scope) : Except Fault Answer :=
  (p.rows scope).map (.ofRows p scope.inventory)

end Plan

namespace Scope

/-- The answer to a query over the scope. -/
def run [Functions] (scope : Scope) (c : Catalog) (source : String) : Except QueryError Answer := do
  let plan ← Plan.ofSource c scope.inventory source
  (plan.answer scope).mapError .answer

end Scope

end InventoryQuery
