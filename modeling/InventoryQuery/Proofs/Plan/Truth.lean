import InventoryQuery.Plan.Basic
import Mathlib.Data.List.Basic

/-!
# Truth of joined conditions

What conditions say together: the truth value of the first is combined with that of the next, the
outcome with that of the one after it, and so on.  The predicate of a plan says the same.
-/

namespace InventoryQuery

/-- A truth value combined with others from left to right, without precedence. -/
def Connective.joined (sofar : Bool) : List (Connective × Bool) → Bool
  | [] => sofar
  | (connective, b) :: rest => joined (connective.combine sofar b) rest

theorem Connective.joined_eq_foldl (sofar : Bool) (links : List (Connective × Bool)) :
    joined sofar links = links.foldl (fun sofar (k, b) ↦ k.combine sofar b) sofar := by
  induction links generalizing sofar with
  | nil => rfl
  | cons link rest ih => exact ih (link.1.combine sofar link.2)

theorem Connective.joined_append (sofar : Bool) (first rest : List (Connective × Bool)) :
    joined sofar (first ++ rest) = joined (joined sofar first) rest := by
  induction first generalizing sofar with
  | nil => rfl
  | cons head tail ih =>
    rw [List.cons_append, joined, joined]
    exact ih (head.1.combine sofar head.2)

namespace Plan

/-- The conditions after the first, each with the connective before it. -/
def links (p : Plan) : List (Connective × Condition) := p.connectives.zip p.conditions.tail

/-- The conditions of the plan, judged one by one and joined.  No conditions say nothing. -/
def truth (p : Plan) (judge : Condition → Bool) : Bool :=
  match p.conditions.head? with
  | none => true
  | some first => Connective.joined (judge first) (p.links.map fun (k, c) ↦ (k, judge c))

theorem eval_foldl_join (judge : Condition → Bool) (sofar : Predicate)
    (conditions : List Condition) (connectives : List Connective) :
    ((conditions.zip connectives).foldl (fun p (c, k) ↦ .join k p (.condition c)) sofar).eval
        judge =
      Connective.joined (sofar.eval judge)
        ((connectives.zip conditions).map fun (k, c) ↦ (k, judge c)) := by
  induction conditions generalizing sofar connectives with
  | nil =>
    rw [List.zip_nil_right]
    rfl
  | cons c rest ih =>
    cases connectives with
    | nil => rfl
    | cons k connectives => exact ih (.join k sofar (.condition c)) connectives

theorem eval_predicate? (p : Plan) (judge : Condition → Bool) :
    (p.predicate?.map (·.eval judge)).getD true = p.truth judge := by
  unfold predicate? Predicate.ofConditions? truth links
  cases p.conditions with
  | nil => rfl
  | cons first rest => exact eval_foldl_join judge (.condition first) rest p.connectives

/-- Only how the conditions of the plan are judged counts. -/
theorem truth_congr {p : Plan} {judge judge' : Condition → Bool}
    (h : ∀ c ∈ p.conditions, judge c = judge' c) : p.truth judge = p.truth judge' := by
  unfold truth links
  cases hconditions : p.conditions with
  | nil => rfl
  | cons first rest =>
    have hfirst : judge first = judge' first := h first (by simp [hconditions])
    have hlinks : ∀ link ∈ p.connectives.zip rest, judge link.2 = judge' link.2 := by
      intro link hlink
      exact h link.2 (by simp [hconditions, (List.of_mem_zip hlink).2])
    simp only [List.head?_cons, List.tail_cons, hfirst]
    congr 1
    exact List.map_congr_left fun link hlink ↦ by rw [hlinks link hlink]

end Plan

end InventoryQuery
