import InventoryQuery.Answer.Run
import InventoryQuery.Proofs.Answer.Cells
import InventoryQuery.Proofs.Answer.Judgement

/-!
# What a query answers

The records of a scope that survive a plan are the first of their ids that its conditions are true
of.  An answer shows each of them in one row, in the order of the scope; without any there is none.
-/

namespace InventoryQuery

variable {c : Catalog} {p : Plan}

namespace Scope

/-- The records that a plan selects, without those that repeat an id. -/
def selected (scope : Scope) (p : Plan) : List Record :=
  (leadersBy (·.id) scope.records).filter (p.selects scope.inventory)

/-- The records that the conditions are true of, without those that repeat an id. -/
def survivors (scope : Scope) (p : Plan) : List Record :=
  (leadersBy (·.id) scope.records).filter (p.accepts scope.inventory)

/-- The row that is shown for a record. -/
def cells [Functions] (scope : Scope) (p : Plan) (record : Record) : Row :=
  p.fields.map fun f ↦ (f.token, f.cell scope.inventory record)

end Scope

namespace Plan

theorem Fits.computedCondition?_eq_none (hp : p.Fits c) : p.computedCondition? = none := by
  apply List.find?_eq_none.2
  intro f hf
  rcases List.mem_append.1 hf with hf | hf
  · obtain ⟨condition, hmem, rfl⟩ := List.mem_map.1 hf
    rcases hp.conditions condition hmem with hcompared | ⟨column, -, hfield⟩
    · simp [Catalog.isComputed_of_mem_comparedFields hcompared]
    · simp [hfield]
  · obtain ⟨column, hmem, rfl⟩ := List.mem_map.1 hf
    obtain ⟨g, hg, rfl⟩ := hp.lengths column hmem
    have hstored : g.isComputed = false := Catalog.isComputed_of_mem_storedFields hg
    rw [Field.lengthColumn, hstored]
    exact Bool.false_ne_true

/-- A plan fails on a scope only by selecting nothing in it. -/
theorem Fits.rows_eq_selected (hp : p.Fits c) (scope : Scope) :
    p.rows scope =
      if scope.selected p = [] then .error .noResults
      else .ok ((scope.selected p).map (p.row scope.inventory)) := by
  unfold rows Scope.selected
  rw [hp.computedCondition?_eq_none, firstsBy_eq_leadersBy]
  cases (leadersBy (·.id) scope.records).filter (p.selects scope.inventory) with
  | nil => rfl
  | cons first rest => rfl

theorem Fits.answer_eq_selected [Functions] (hp : p.Fits c) (scope : Scope) :
    p.answer scope =
      if scope.selected p = [] then .error .noResults
      else .ok ⟨p.fields.map fun f ↦ (f.token, f.header),
        (scope.selected p).map (scope.cells p)⟩ := by
  unfold answer
  rw [hp.rows_eq_selected scope]
  split
  · rfl
  · have hshown : Answer.ofRow p scope.inventory ∘ p.row scope.inventory = scope.cells p := by
      funext record
      exact hp.ofRow_row
    simp only [Except.map, Answer.ofRows, List.map_map, hshown]

/-- In a coherent catalog every condition finds its own value in the row. -/
theorem Fits.selected_eq (hp : p.Fits c) (hc : c.Coherent) (scope : Scope) :
    scope.selected p = scope.survivors p :=
  List.filter_congr fun _ _ ↦ hp.selects_eq_accepts hc

/-- Where no id is repeated, the records that survive are those that are selected. -/
theorem Fits.mem_survivors_iff (hp : p.Fits c) (hc : c.Coherent) {scope : Scope}
    (hids : (scope.records.map (·.id)).Nodup) {record : Record} :
    record ∈ scope.survivors p ↔
      record ∈ scope.records ∧ p.selects scope.inventory record = true := by
  rw [← hp.selected_eq hc, Scope.selected, ← firstsBy_eq_leadersBy, firstsBy_eq_self hids,
    List.mem_filter]

theorem Fits.rows_eq (hp : p.Fits c) (hc : c.Coherent) (scope : Scope) :
    p.rows scope =
      if scope.survivors p = [] then .error .noResults
      else .ok ((scope.survivors p).map (p.row scope.inventory)) := by
  rw [hp.rows_eq_selected, hp.selected_eq hc]

theorem Fits.answer_eq [Functions] (hp : p.Fits c) (hc : c.Coherent) (scope : Scope) :
    p.answer scope =
      if scope.survivors p = [] then .error .noResults
      else .ok ⟨p.fields.map fun f ↦ (f.token, f.header),
        (scope.survivors p).map (scope.cells p)⟩ := by
  rw [hp.answer_eq_selected, hp.selected_eq hc]

theorem ofSource_fits {inventory : Inventory} {source : String}
    (h : ofSource c inventory source = .ok p) : p.Fits c := by
  obtain ⟨query, -, hquery⟩ := bind_eq_ok_iff.1 h
  exact ofQuery_fits (mapError_eq_ok_iff.1 hquery)

end Plan

/-- A query with a plan is answered with the cells of the records that the plan selects. -/
theorem Scope.run_eq_selected [Functions] {scope : Scope} {source : String}
    (h : Plan.ofSource c scope.inventory source = .ok p) :
    scope.run c source =
      if scope.selected p = [] then .error (.answer .noResults)
      else .ok ⟨p.fields.map fun f ↦ (f.token, f.header),
        (scope.selected p).map (scope.cells p)⟩ := by
  have hrun : scope.run c source = (p.answer scope).mapError .answer := by
    unfold run
    rw [h]
    rfl
  rw [hrun, (Plan.ofSource_fits h).answer_eq_selected]
  split
  · rfl
  · rfl

theorem Scope.run_eq_ok_iff [Functions] (hc : c.Coherent) {scope : Scope} {source : String}
    {answer : Answer} :
    scope.run c source = .ok answer ↔
      ∃ p, Plan.ofSource c scope.inventory source = .ok p ∧ scope.survivors p ≠ [] ∧
        answer = ⟨p.fields.map fun f ↦ (f.token, f.header),
          (scope.survivors p).map (scope.cells p)⟩ := by
  unfold run
  rw [bind_eq_ok_iff]
  apply exists_congr
  intro p
  apply and_congr_right
  intro hp
  rw [mapError_eq_ok_iff, (Plan.ofSource_fits hp).answer_eq hc]
  by_cases hnone : scope.survivors p = []
  · rw [if_pos hnone]
    simp [hnone]
  · rw [if_neg hnone, and_iff_right hnone, Except.ok.injEq, eq_comm]

/-- A query with a plan over the hosts is answered with the cells of the records that survive the
plan, in their order, and with the fault that there are no results where none survives. -/
theorem Scope.run_hosts_eq {scope : Scope} {source : String} {p : Plan}
    (h : Plan.ofSource Catalog.hosts scope.inventory source = .ok p) :
    scope.run Catalog.hosts source =
      if scope.survivors p = [] then .error (.answer .noResults)
      else .ok ⟨p.fields.map fun f ↦ (f.token, f.header),
        (scope.survivors p).map (scope.cells p)⟩ := by
  have hanswer := (Plan.ofSource_fits h).answer_eq Catalog.coherent_hosts scope
  calc
    scope.run Catalog.hosts source = (p.answer scope).mapError .answer := by
      unfold run
      rw [h]
      rfl
    _ = _ := by
      rw [hanswer]
      split
      · rfl
      · rfl

/-- Two hosts with one id, of which the first counts, and a token that is asked for twice. -/
theorem Scope.run_hosts_eq_of_repeated_id :
    let scope : Scope := ⟨.empty, hostsTable,
      [.ofList 1 [("efi", .bool true)], .ofList 1 [("comment", .text "x")], .empty 2]⟩
    ∃ p, Plan.ofSource Catalog.hosts scope.inventory "fqdn, id, fqdn where efi or comment" = .ok p ∧
      (scope.survivors p).map (·.attributes) = [[("efi", .bool true)]] ∧
      scope.run Catalog.hosts "fqdn, id, fqdn where efi or comment" =
        .ok ⟨p.fields.map fun f ↦ (f.token, f.header),
          (scope.survivors p).map (scope.cells p)⟩ := by
  intro scope
  have hplan : (Plan.ofSource Catalog.hosts scope.inventory
      "fqdn, id, fqdn where efi or comment").toOption.any (fun p ↦
        (scope.survivors p).map (·.attributes) = [[("efi", .bool true)]]) = true := by
    decide +kernel
  obtain ⟨p, hsome, hsurvivors⟩ := (Option.any_eq_true _ _).1 hplan
  have hp := toOption_eq_some_iff.1 hsome
  refine ⟨p, hp, of_decide_eq_true hsurvivors, ?_⟩
  have hany : scope.survivors p ≠ [] := by
    intro hnil
    simp [hnil] at hsurvivors
  rw [Scope.run_hosts_eq hp, if_neg hany]

end InventoryQuery
