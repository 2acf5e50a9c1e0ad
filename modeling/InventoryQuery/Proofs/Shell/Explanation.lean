import InventoryQuery.Proofs.Answer.Run
import InventoryQuery.Shell.Session

/-!
# Failures are known before the records are read

Whatever is wrong with a query is found when it is planned, and is told with its place in the text.
A plan fails on a scope only by selecting nothing.  So the explanation of a query, which plans it and
no more, fails exactly where its execution does.
-/

namespace InventoryQuery

theorem QueryError.outcome_eq_empty_iff {e : QueryError} :
    e.outcome = .empty ↔ e = .answer .noResults := by
  cases e with
  | form e => simp [outcome]
  | plan e =>
    obtain ⟨value, span⟩ := e
    cases value with
    | _ => simp [outcome]
  | answer fault =>
    cases fault with
    | _ => simp [outcome]

variable {c : Catalog} {inventory : Inventory} {source : String} {e : QueryError}

/-- What planning finds wrong has a place in the text of the query. -/
theorem Plan.isSome_span?_of_ofSource (h : ofSource c inventory source = .error e) :
    e.span?.isSome = true := by
  rcases bind_eq_error_iff.1 h with hform | ⟨query, -, hplan⟩
  · obtain ⟨fault, -, rfl⟩ := mapError_eq_error_iff.1 hform
    rfl
  · obtain ⟨fault, -, rfl⟩ := mapError_eq_error_iff.1 hplan
    rfl

theorem Plan.ofSource_ne_answer (fault : Fault) :
    ofSource c inventory source ≠ .error (.answer fault) :=
  fun h ↦ Bool.false_ne_true (isSome_span?_of_ofSource h)

theorem Scope.run_eq_error_iff [Functions] {scope : Scope} :
    scope.run c source = .error e ↔
      Plan.ofSource c scope.inventory source = .error e ∨
        e = .answer .noResults ∧
          ∃ p, Plan.ofSource c scope.inventory source = .ok p ∧ scope.selected p = [] := by
  cases hplan : Plan.ofSource c scope.inventory source with
  | error fault =>
    have hrun : scope.run c source = .error fault := by
      unfold run
      rw [hplan]
      rfl
    simp [hrun]
  | ok p =>
    rw [run_eq_selected hplan]
    by_cases hnone : scope.selected p = []
    · simp only [hnone, if_true, Except.error.injEq, Except.ok.injEq, reduceCtorEq, false_or,
        exists_eq_left', and_true]
      exact eq_comm
    · simp [hnone]

namespace Session

theorem explain_eq_error_iff {s : Session} {query : String} :
    s.explain query = .error e ↔ Plan.ofSource .hosts s.inventory query = .error e :=
  map_eq_error_iff

theorem execute_eq_error_iff {s : Session} {format : Format} {query : String} :
    s.execute format query = .error e ↔
      s.scope.run .hosts query = .error e ∧ e ≠ .answer .noResults := by
  unfold execute
  cases s.scope.run .hosts query with
  | ok answer => simp
  | error fault =>
    simp only [QueryError.outcome_eq_empty_iff]
    by_cases hnone : fault = .answer .noResults
    · simp only [hnone, if_true]
      grind
    · simp only [hnone, if_false]
      grind

/-- After planning the only failure is that there are no results, for every catalog, scope and query;
and an explanation fails exactly where the execution fails, with the same error and the same text. -/
theorem failures_agree :
    (∀ [Functions] (c : Catalog) (scope : Scope) (source : String) (e : QueryError),
      scope.run c source = .error e ↔
        Plan.ofSource c scope.inventory source = .error e ∨
          e = .answer .noResults ∧
            ∃ p, Plan.ofSource c scope.inventory source = .ok p ∧ scope.selected p = []) ∧
    (∀ (c : Catalog) (inventory : Inventory) (source : String) (fault : Fault),
      Plan.ofSource c inventory source ≠ .error (.answer fault)) ∧
    (∀ (s : Session) (format : Format) (query : String) (e : QueryError),
      s.explain query = .error e ↔ s.execute format query = .error e) ∧
    ∀ (s : Session) (format : Format) (query text : String),
      (s.explain query).mapError (·.render query) = .error text ↔
        (s.execute format query).mapError (·.render query) = .error text := by
  have hagree (s : Session) (format : Format) (query : String) (e : QueryError) :
      s.explain query = .error e ↔ s.execute format query = .error e := by
    rw [explain_eq_error_iff, execute_eq_error_iff, Scope.run_eq_error_iff]
    constructor
    · intro hplan
      refine ⟨.inl hplan, ?_⟩
      rintro rfl
      exact Plan.ofSource_ne_answer _ hplan
    · rintro ⟨hplan | ⟨hnone, -⟩, hne⟩
      · exact hplan
      · exact absurd hnone hne
  refine ⟨fun _ _ _ _ ↦ Scope.run_eq_error_iff, fun _ _ _ ↦ Plan.ofSource_ne_answer, hagree, ?_⟩
  intro s format query text
  rw [mapError_eq_error_iff, mapError_eq_error_iff]
  apply exists_congr
  intro e
  rw [hagree s format query e]

end Session

end InventoryQuery
