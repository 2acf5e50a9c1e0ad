import InventoryQuery.Answer.Run
import InventoryQuery.Proofs.Catalog.Resolve
import InventoryQuery.Proofs.Success

/-!
# When a query fits a catalog

A query has a plan exactly when each of its names resolves, no condition is on a computed field, and
every operator and literal fits the kind of its field.  The plan is then put together from one block
for every written condition.
-/

namespace InventoryQuery

theorem Catalog.resolve_eq_ok_iff {c : Catalog} {token : Located String} {f : Field} :
    c.resolve token = .ok f ↔ c.resolve? token.value = some f := by
  unfold resolve
  cases c.resolve? token.value with
  | none => simp
  | some g => simp

theorem Operator.test?_eq_notEqual_iff {op : Operator} {kind : Kind} :
    op.test? kind = some .notEqual ↔ op = .notEqual := by
  cases op <;> cases kind <;> simp [test?, Kind.isOrdered]

namespace Plan

variable {c : Catalog} {inventory : Inventory}

/-! ## One condition -/

theorem block_bare_eq_ok_iff {field : Located String} {negated : Bool} {b : Block} :
    block c inventory (.bare field negated) = .ok b ↔
      ∃ f, c.resolve? field.value = some f ∧ f.isComputed = false ∧
        b = ⟨(f.bare negated).condition, none, (f.bare negated).length⟩ := by
  unfold block
  rw [bind_eq_ok_iff]
  apply exists_congr
  intro f
  rw [Catalog.resolve_eq_ok_iff]
  apply and_congr_right
  intro _
  cases f.isComputed with
  | true => simp [bind, Except.bind, throw, throwThe, MonadExceptOf.throw]
  | false => simp [pure, Except.pure, eq_comm]

theorem block_comparison_eq_ok_iff {field : Located String} {op : Located Operator}
    {value : Located String} {b : Block} :
    block c inventory (.comparison field op value) = .ok b ↔
      ∃ f, c.resolve? field.value = some f ∧ f.isComputed = false ∧
        ∃ test, op.value.test? f.kind = some test ∧
          ∃ given, givenValue inventory f test value = .ok given ∧ b = comparison f test given := by
  unfold block
  rw [bind_eq_ok_iff]
  apply exists_congr
  intro f
  rw [Catalog.resolve_eq_ok_iff]
  apply and_congr_right
  intro _
  cases f.isComputed with
  | true => simp [bind, Except.bind, throw, throwThe, MonadExceptOf.throw]
  | false =>
    simp only [Bool.false_eq_true, if_false, true_and]
    cases op.value.test? f.kind with
    | none => simp [throw, throwThe, MonadExceptOf.throw]
    | some test =>
      simp only [Option.some.injEq, exists_eq_left']
      rw [bind_eq_ok_iff]
      simp [pure, Except.pure, eq_comm]

/-! ## All conditions -/

/-- The plan that shows some fields and joins blocks from left to right. -/
def ofBlocks (fields : List Field) (first : Block) (rest : List (Connective × Block)) : Plan where
  fields := fields
  conditions := (first :: rest.map (·.2)).flatMap (·.conditions)
  connectives := blockConnectives first rest
  lengths := blockLengths (first :: rest.map (·.2))

theorem ofQuery_none_eq_ok_iff {fields : List (Located String)} {span : Span} {p : Plan} :
    ofQuery c inventory ⟨fields, none, span⟩ = .ok p ↔
      ∃ shown, List.Forall₂ (fun token f ↦ c.resolve? token.value = some f) fields shown ∧
        p = ⟨shown, [], [], []⟩ := by
  unfold ofQuery
  rw [bind_eq_ok_iff]
  apply exists_congr
  intro shown
  rw [mapM_eq_ok_iff]
  simp only [Catalog.resolve_eq_ok_iff]
  exact and_congr_right fun _ ↦ pure_eq_ok_iff

/-- A connective keeps its place in front of what the condition after it becomes. -/
def BlockOf (c : Catalog) (inventory : Inventory) (written : Located Connective × Clause)
    (compiled : Connective × Block) : Prop :=
  compiled.1 = written.1.value ∧ block c inventory written.2 = .ok compiled.2

theorem ofQuery_some_eq_ok_iff {fields : List (Located String)} {filter : Filter} {span : Span}
    {p : Plan} :
    ofQuery c inventory ⟨fields, some filter, span⟩ = .ok p ↔
      ∃ shown, List.Forall₂ (fun token f ↦ c.resolve? token.value = some f) fields shown ∧
        ∃ first, block c inventory filter.first = .ok first ∧
          ∃ rest, List.Forall₂ (BlockOf c inventory) filter.rest rest ∧
            p = ofBlocks shown first rest := by
  have hstep (written : Located Connective × Clause) (compiled : Connective × Block) :
      (do return (written.1.value, ← block c inventory written.2) : Except PlanError _) =
          .ok compiled ↔ BlockOf c inventory written compiled := by
    obtain ⟨connective, b⟩ := compiled
    rw [bind_eq_ok_iff]
    simp only [pure, Except.pure, Except.ok.injEq, Prod.mk.injEq, BlockOf]
    grind
  unfold ofQuery
  rw [bind_eq_ok_iff]
  apply exists_congr
  intro shown
  rw [mapM_eq_ok_iff]
  simp only [Catalog.resolve_eq_ok_iff]
  apply and_congr_right
  intro _
  rw [bind_eq_ok_iff]
  apply exists_congr
  intro first
  apply and_congr_right
  intro _
  rw [bind_eq_ok_iff]
  apply exists_congr
  intro rest
  rw [mapM_eq_ok_iff]
  simp only [hstep]
  exact and_congr_right fun _ ↦ pure_eq_ok_iff

theorem ofSource_eq_ok_iff_of_read {source : String} {q : Query} (h : Query.read source = .ok q)
    {p : Plan} : ofSource c inventory source = .ok p ↔ ofQuery c inventory q = .ok p := by
  unfold ofSource
  rw [h]
  exact mapError_eq_ok_iff

end Plan

end InventoryQuery
