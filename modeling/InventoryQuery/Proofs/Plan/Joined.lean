import InventoryQuery.Proofs.Plan.Compile
import InventoryQuery.Proofs.Plan.Truth

/-!
# Truth of written conditions

A written condition that becomes two takes the places of both in one flat sequence.  The second of
them is joined by `or` to everything before it, not only to the first.
-/

namespace InventoryQuery

theorem zip_flatMap {α β γ : Type} {f : α → List β} {g : α → List γ}
    (h : ∀ a, (f a).length = (g a).length) (as : List α) :
    (as.flatMap f).zip (as.flatMap g) = as.flatMap fun a ↦ (f a).zip (g a) := by
  induction as with
  | nil => rfl
  | cons a rest ih =>
    rw [List.flatMap_cons, List.flatMap_cons, List.flatMap_cons, List.zip_append (h a), ih]

namespace Block

/-- The condition that may hold in place of the first, with its connective. -/
def alternatives (b : Block) : List (Connective × Condition) :=
  b.alternative.toList.map fun condition ↦ (.or, condition)

theorem length_connectives (b : Block) : b.connectives.length = b.alternative.toList.length := by
  rw [connectives, List.length_map]

theorem zip_connectives (b : Block) :
    b.connectives.zip b.alternative.toList = b.alternatives := by
  unfold connectives alternatives
  cases b.alternative with
  | none => rfl
  | some condition => rfl

theorem joined_alternatives (b : Block) (judge : Condition → Bool) (sofar : Bool) :
    Connective.joined sofar (b.alternatives.map fun (k, c) ↦ (k, judge c)) =
      (sofar || b.alternative.any judge) := by
  unfold alternatives
  cases b.alternative with
  | none => exact (Bool.or_false sofar).symm
  | some condition => rfl

end Block

namespace Plan

variable {fields : List Field} {first b : Block} {rest : List (Connective × Block)}

/-- The links of a plan are those of its blocks, one block after the other. -/
theorem links_ofBlocks :
    (ofBlocks fields first rest).links =
      first.alternatives ++ rest.flatMap fun (k, b) ↦ (k, b.condition) :: b.alternatives := by
  have hconditions : (ofBlocks fields first rest).conditions.tail =
      first.alternative.toList ++ rest.flatMap fun link ↦ link.2.conditions := by
    simp [ofBlocks, Block.conditions, List.flatMap_map]
  have hconnectives : (ofBlocks fields first rest).connectives =
      first.connectives ++ rest.flatMap fun link ↦ link.1 :: link.2.connectives := rfl
  have hlength : ∀ link : Connective × Block,
      (link.1 :: link.2.connectives).length = link.2.conditions.length := by
    intro link
    rw [List.length_cons, Block.length_connectives, Block.conditions, List.length_cons]
  rw [links, hconditions, hconnectives, List.zip_append first.length_connectives,
    first.zip_connectives, zip_flatMap hlength]
  congr 2
  funext link
  rw [Block.conditions, List.zip_cons_cons, Block.zip_connectives]

/-- There is one connective between every two neighbours, so that every condition has its part in
the truth of a plan. -/
theorem length_conditions_ofBlocks :
    (ofBlocks fields first rest).conditions.length =
      (ofBlocks fields first rest).connectives.length + 1 := by
  simp only [ofBlocks, blockConnectives, List.length_flatMap, List.length_append, List.map_cons,
    List.sum_cons, List.map_map, Block.conditions, List.length_cons, Block.length_connectives,
    Function.comp_def]
  omega

theorem truth_ofBlocks (judge : Condition → Bool) :
    (ofBlocks fields first rest).truth judge =
      Connective.joined (judge first.condition)
        ((ofBlocks fields first rest).links.map fun (k, c) ↦ (k, judge c)) := rfl

theorem truth_ofBlocks_nil (judge : Condition → Bool) :
    (ofBlocks fields b []).truth judge = (judge b.condition || b.alternative.any judge) := by
  rw [truth_ofBlocks, links_ofBlocks, List.flatMap_nil, List.append_nil]
  exact b.joined_alternatives judge _

/-- What one more condition adds to those before it: its connective joins only the first of the
conditions that it becomes. -/
theorem truth_ofBlocks_append (k : Connective) (judge : Condition → Bool) :
    (ofBlocks fields first (rest ++ [(k, b)])).truth judge =
      (k.combine ((ofBlocks fields first rest).truth judge) (judge b.condition) ||
        b.alternative.any judge) := by
  have hlinks : (ofBlocks fields first (rest ++ [(k, b)])).links =
      (ofBlocks fields first rest).links ++ (k, b.condition) :: b.alternatives := by
    rw [links_ofBlocks, links_ofBlocks, List.flatMap_append, List.append_assoc,
      List.flatMap_singleton]
  calc
    (ofBlocks fields first (rest ++ [(k, b)])).truth judge =
        Connective.joined (judge first.condition)
          ((ofBlocks fields first rest).links.map (fun (k, c) ↦ (k, judge c)) ++
            (k, judge b.condition) :: b.alternatives.map fun (k, c) ↦ (k, judge c)) := by
      rw [truth_ofBlocks, hlinks, List.map_append, List.map_cons]
    _ = Connective.joined
          (k.combine ((ofBlocks fields first rest).truth judge) (judge b.condition))
          (b.alternatives.map fun (k, c) ↦ (k, judge c)) := by
      rw [Connective.joined_append, ← truth_ofBlocks, Connective.joined]
    _ = _ := b.joined_alternatives judge _

end Plan

end InventoryQuery
