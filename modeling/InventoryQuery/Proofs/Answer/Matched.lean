import InventoryQuery.Proofs.Answer.Run
import InventoryQuery.Proofs.Plan.Joined

/-!
# Which hosts match

Adding a written condition to others by `or` matches the hosts that either matches.  Adding it by
`and` matches those that both match, unless the condition asks a reference to differ: such a
condition becomes two, the second of which is joined by `or` to all that is before, and a host whose
reference is less than the given one matches whatever else was asked of it.
-/

namespace InventoryQuery

/-- The filter with one more condition after it. -/
def Filter.joined (filter : Filter) (connective : Located Connective) (clause : Clause) : Filter :=
  ⟨filter.first, filter.rest ++ [(connective, clause)]⟩

namespace Clause

/-- The condition asks a reference to differ from an id. -/
def Excludes (c : Catalog) (inventory : Inventory) (clause : Clause) (f : Field) (given : Value) :
    Prop :=
  ∃ field span value, clause = .comparison field ⟨.notEqual, span⟩ value ∧
    c.resolve? field.value = some f ∧ f.isComputed = false ∧ f.kind = .reference ∧
    Plan.givenValue inventory f .notEqual value = .ok given

/-- The condition asks a reference to differ from an id, and that of the record is less. -/
def Below (c : Catalog) (inventory : Inventory) (record : Record) (clause : Clause) : Prop :=
  ∃ f given, clause.Excludes c inventory f given ∧
    (f.read inventory record).passes .less given = true

end Clause

variable {c : Catalog} {inventory : Inventory} {record : Record}

/-! ## The second of two conditions -/

namespace Plan

theorem alternative_comparison_eq_some_iff {f : Field} {test : Test} {given : Value}
    {condition : Condition} :
    (comparison f test given).alternative = some condition ↔
      f.kind = .reference ∧ test = .notEqual ∧ condition = ⟨f, .less, given⟩ := by
  unfold comparison
  split
  · next hboth =>
    obtain ⟨hkind, htest⟩ : f.kind = .reference ∧ test = .notEqual := by simpa using hboth
    simp [hkind, htest, eq_comm]
  · next hboth =>
    have hnot : ¬(f.kind = .reference ∧ test = .notEqual) := by simpa using hboth
    have hnone : (if test = .contains || test = .startsWith then
        (⟨⟨f.shownField?.getD f, test, given⟩, none, none⟩ : Block)
        else ⟨⟨f, test, given⟩, none, none⟩).alternative = none := by
      split
      · rfl
      · rfl
    rw [hnone]
    constructor
    · intro h
      cases h
    · rintro ⟨hkind, htest, -⟩
      exact absurd ⟨hkind, htest⟩ hnot

/-- A written condition has a second one exactly when it asks a reference to differ. -/
theorem alternative_block_eq_some_iff {clause : Clause} {b : Block}
    (h : block c inventory clause = .ok b) {condition : Condition} :
    b.alternative = some condition ↔
      ∃ f given, clause.Excludes c inventory f given ∧ condition = ⟨f, .less, given⟩ := by
  cases clause with
  | bare field negated =>
    obtain ⟨f, -, -, rfl⟩ := block_bare_eq_ok_iff.1 h
    simp [Clause.Excludes]
  | comparison field op value =>
    obtain ⟨f, hresolve, hstored, test, htest, given, hgiven, rfl⟩ :=
      block_comparison_eq_ok_iff.1 h
    rw [alternative_comparison_eq_some_iff]
    constructor
    · rintro ⟨hkind, rfl, rfl⟩
      obtain ⟨operator, span⟩ := op
      obtain rfl : operator = .notEqual := Operator.test?_eq_notEqual_iff.1 htest
      exact ⟨f, given, ⟨field, span, value, rfl, hresolve, hstored, hkind, hgiven⟩, rfl⟩
    · rintro ⟨g, given', ⟨field', span, value', heq, hresolve', -, hkind, hgiven'⟩, rfl⟩
      cases heq
      obtain rfl : f = g := Option.some.inj (hresolve.symm.trans hresolve')
      obtain rfl : test = .notEqual :=
        Option.some.inj (htest.symm.trans (Operator.test?_eq_notEqual_iff.2 rfl))
      obtain rfl : given = given' := Except.ok.inj (hgiven.symm.trans hgiven')
      exact ⟨hkind, rfl, rfl⟩

/-! ## Plans of one and of more conditions -/

theorem ofQuery_joined {fields : List (Located String)} {filter : Filter} {clause : Clause}
    {span span' : Span} {before single : Plan}
    (hbefore : ofQuery c inventory ⟨fields, some filter, span⟩ = .ok before)
    (hsingle : ofQuery c inventory ⟨fields, some ⟨clause, []⟩, span'⟩ = .ok single) :
    ∃ shown shown' first rest b, before = ofBlocks shown first rest ∧
      single = ofBlocks shown' b [] ∧ block c inventory clause = .ok b ∧
      ∀ connective span'', ofQuery c inventory
        ⟨fields, some (filter.joined connective clause), span''⟩ =
          .ok (ofBlocks shown first (rest ++ [(connective.value, b)])) := by
  obtain ⟨shown, hshown, first, hfirst, rest, hrest, rfl⟩ := ofQuery_some_eq_ok_iff.1 hbefore
  obtain ⟨shown', -, b, hb, none, hnone, rfl⟩ := ofQuery_some_eq_ok_iff.1 hsingle
  obtain rfl : none = [] := by simpa using hnone
  refine ⟨shown, shown', first, rest, b, rfl, rfl, hb, fun connective span'' ↦ ?_⟩
  have hlast : List.Forall₂ (BlockOf c inventory) [(connective, clause)]
      [(connective.value, b)] := .cons ⟨rfl, hb⟩ .nil
  exact ofQuery_some_eq_ok_iff.2
    ⟨shown, hshown, first, hfirst, _, List.rel_append hrest hlast, rfl⟩

/-! ## The hosts that match -/

/-- The ids of the records that a plan selects, in the order of the scope. -/
def matchedIds (p : Plan) (scope : Scope) : List Int64 :=
  match p.rows scope with
  | .ok rows => rows.filterMap fun row ↦ (row.value Record.idName).asInt?
  | .error _ => []

theorem Fits.matchedIds_eq {p : Plan} (hp : p.Fits c) (hc : c.Coherent) (scope : Scope) :
    p.matchedIds scope = (scope.survivors p).map (·.id) := by
  unfold matchedIds
  rw [hp.rows_eq hc scope]
  by_cases hnone : scope.survivors p = []
  · simp [hnone]
  · have hid : ∀ record : Record,
        ((p.row scope.inventory record).value Record.idName).asInt? = some record.id := by
      intro record
      simp [row, Row.value, Value.asInt?]
    simp only [if_neg hnone, List.filterMap_map, Function.comp_def, hid, List.filterMap_eq_map']

theorem Fits.mem_matchedIds_iff {p : Plan} (hp : p.Fits c) (hc : c.Coherent) {scope : Scope}
    (hids : (scope.records.map (·.id)).Nodup) {host : Record} (hhost : host ∈ scope.records) :
    host.id ∈ p.matchedIds scope ↔ p.accepts scope.inventory host = true := by
  rw [hp.matchedIds_eq hc, Scope.survivors, ← firstsBy_eq_leadersBy, firstsBy_eq_self hids,
    List.mem_map]
  constructor
  · rintro ⟨other, hother, hid⟩
    obtain ⟨hmem, haccepts⟩ := List.mem_filter.1 hother
    obtain rfl : other = host := List.inj_on_of_nodup_map hids hmem hhost hid
    exact haccepts
  · intro haccepts
    exact ⟨host, List.mem_filter.2 ⟨hhost, haccepts⟩, rfl⟩

theorem Fits.accepts_eq_truth {p q : Plan} (hp : p.Fits c) (hq : q.Fits c) (hc : c.Coherent)
    (hsub : p.conditions ⊆ q.conditions) (inventory : Inventory) (record : Record) :
    p.accepts inventory record = p.truth (q.judges inventory record) := by
  apply truth_congr
  intro condition hmem
  unfold judges
  rw [hp.reading_congr hq hc hmem (hsub hmem)]

theorem Fits.any_alternative_iff {p : Plan} (hp : p.Fits c) (hc : c.Coherent) {clause : Clause}
    {b : Block} (hb : block c inventory clause = .ok b) (record : Record) :
    b.alternative.any (p.judges inventory record) = true ↔ clause.Below c inventory record := by
  have hreading {f : Field} {given : Value} (h : clause.Excludes c inventory f given) :
      p.reading inventory record f = f.read inventory record := by
    obtain ⟨field, span, value, -, hresolve, hstored, -⟩ := h
    have hf : f ∈ c.comparedFields :=
      Catalog.mem_comparedFields (Catalog.mem_storedFields hresolve hstored)
    rw [reading, hp.measured?_eq_none hc hf]
  rw [Option.any_eq_true]
  constructor
  · rintro ⟨condition, hsome, hjudge⟩
    obtain ⟨f, given, hexcludes, rfl⟩ := (alternative_block_eq_some_iff hb).1 hsome
    rw [judges, hreading hexcludes] at hjudge
    exact ⟨f, given, hexcludes, hjudge⟩
  · rintro ⟨f, given, hexcludes, hless⟩
    refine ⟨_, (alternative_block_eq_some_iff hb).2 ⟨f, given, hexcludes, rfl⟩, ?_⟩
    rwa [judges, hreading hexcludes]

/-- What is accepted with one more condition, in terms of the two conditions that it becomes. -/
theorem accepts_joined (hc : c.Coherent) {fields : List (Located String)} {filter : Filter}
    {clause : Clause} {span span' : Span} {before single : Plan}
    (hbefore : ofQuery c inventory ⟨fields, some filter, span⟩ = .ok before)
    (hsingle : ofQuery c inventory ⟨fields, some ⟨clause, []⟩, span'⟩ = .ok single)
    (connective : Located Connective) (span'' : Span) :
    ∃ joined, ofQuery c inventory ⟨fields, some (filter.joined connective clause), span''⟩ =
        .ok joined ∧
      ∀ record, ∃ holds below : Bool, (below = true ↔ clause.Below c inventory record) ∧
        single.accepts inventory record = (holds || below) ∧
        joined.accepts inventory record =
          (connective.value.combine (before.accepts inventory record) holds || below) := by
  obtain ⟨shown, shown', first, rest, b, rfl, rfl, hb, hall⟩ := ofQuery_joined hbefore hsingle
  have hjoined := hall connective span''
  have hfits := ofQuery_fits hjoined
  have hsubBefore : (ofBlocks shown first rest).conditions ⊆
      (ofBlocks shown first (rest ++ [(connective.value, b)])).conditions := by
    intro condition hmem
    simp only [ofBlocks, List.map_append, List.flatMap_append, ← List.cons_append]
    exact List.mem_append_left _ hmem
  have hsubSingle : (ofBlocks shown' b []).conditions ⊆
      (ofBlocks shown first (rest ++ [(connective.value, b)])).conditions := by
    intro condition hmem
    simp only [ofBlocks, List.map_append, List.flatMap_append, ← List.cons_append]
    exact List.mem_append_right _ hmem
  refine ⟨_, hjoined, fun record ↦ ?_⟩
  -- The three plans judge their common conditions alike, as the longest of them does.
  let judge := (ofBlocks shown first (rest ++ [(connective.value, b)])).judges inventory record
  refine ⟨judge b.condition, b.alternative.any judge, hfits.any_alternative_iff hc hb record, ?_, ?_⟩
  · rw [(ofQuery_fits hsingle).accepts_eq_truth hfits hc hsubSingle, truth_ofBlocks_nil]
  · rw [(ofQuery_fits hbefore).accepts_eq_truth hfits hc hsubBefore, accepts,
      truth_ofBlocks_append]

end Plan

/-- Over hosts with distinct ids, adding a condition by `or` matches the hosts that match either
way.  Adding it by `and` matches those that match both ways and those that are below an excluded id;
so it goes wrong at a host below the excluded id that the conditions before do not match. -/
theorem matchedIds_joined_iff {scope : Scope} (hids : (scope.records.map (·.id)).Nodup)
    {fields : List (Located String)} {filter : Filter} {clause : Clause} {span span' : Span}
    {before single : Plan}
    (hbefore : Plan.ofQuery Catalog.hosts scope.inventory ⟨fields, some filter, span⟩ =
      .ok before)
    (hsingle : Plan.ofQuery Catalog.hosts scope.inventory ⟨fields, some ⟨clause, []⟩, span'⟩ =
      .ok single) (connective : Located Connective) (span'' : Span) :
    ∃ joined, Plan.ofQuery Catalog.hosts scope.inventory
        ⟨fields, some (filter.joined connective clause), span''⟩ = .ok joined ∧
      ∀ host ∈ scope.records,
        match connective.value with
        | .or =>
          host.id ∈ joined.matchedIds scope ↔
            host.id ∈ before.matchedIds scope ∨ host.id ∈ single.matchedIds scope
        | .and =>
          (host.id ∈ joined.matchedIds scope ↔
            host.id ∈ before.matchedIds scope ∧ host.id ∈ single.matchedIds scope ∨
              clause.Below Catalog.hosts scope.inventory host) ∧
          ((host.id ∈ joined.matchedIds scope ↔
              host.id ∈ before.matchedIds scope ∧ host.id ∈ single.matchedIds scope) ↔
            (clause.Below Catalog.hosts scope.inventory host →
              host.id ∈ before.matchedIds scope)) := by
  have hc := Catalog.coherent_hosts
  obtain ⟨joined, hjoined, haccepts⟩ := Plan.accepts_joined hc hbefore hsingle connective span''
  refine ⟨joined, hjoined, fun host hhost ↦ ?_⟩
  obtain ⟨holds, below, hbelow, hone, hboth⟩ := haccepts host
  rw [(Plan.ofQuery_fits hjoined).mem_matchedIds_iff hc hids hhost,
    (Plan.ofQuery_fits hbefore).mem_matchedIds_iff hc hids hhost,
    (Plan.ofQuery_fits hsingle).mem_matchedIds_iff hc hids hhost, hone, hboth, ← hbelow]
  cases connective.value with
  | or =>
    simp only [Connective.combine, Bool.or_eq_true]
    exact or_assoc
  | and =>
    simp only [Connective.combine, Bool.or_eq_true, Bool.and_eq_true]
    constructor
    · tauto
    · tauto

/-! ## A host that matches too much -/

namespace Matched

/-- Two hosts of the architecture with the lower of two ids. -/
def twoHosts : Scope where
  inventory := .ofTables [("architectures", [.ofList 1 [("name", .text "x86_64")],
    .ofList 2 [("name", .text "aarch64")]])]
  table := hostsTable
  records := [.ofList 1 [("efi", .bool true), ("architecture", .int 1)],
    .ofList 2 [("efi", .bool false), ("architecture", .int 1)]]

def located {α : Type} (value : α) : Located α := ⟨value, 0, 0⟩

/-- A query for names of hosts, without the places of its words. -/
def query (filter : Filter) : Query := ⟨[located "fqdn"], some filter, 0, 0⟩

def efi : Clause := .bare (located "efi") false

def otherArchitecture : Clause :=
  .comparison (located "arch") (located .notEqual) (located "aarch64")

end Matched

open Matched in
theorem matchedIds_joined_iff_of_twoHosts :
    ∃ before single joined,
      Plan.ofQuery Catalog.hosts twoHosts.inventory (query ⟨efi, []⟩) = .ok before ∧
      Plan.ofQuery Catalog.hosts twoHosts.inventory (query ⟨otherArchitecture, []⟩) =
        .ok single ∧
      Plan.ofQuery Catalog.hosts twoHosts.inventory
        (query (Filter.joined ⟨efi, []⟩ (located .and) otherArchitecture)) = .ok joined ∧
      ∀ host ∈ twoHosts.records,
        (host.id ∈ joined.matchedIds twoHosts ↔
          host.id ∈ before.matchedIds twoHosts ∧ host.id ∈ single.matchedIds twoHosts ∨
            otherArchitecture.Below Catalog.hosts twoHosts.inventory host) := by
  have hbefore : (Plan.ofQuery Catalog.hosts twoHosts.inventory
      (query ⟨efi, []⟩)).toOption.isSome = true := by decide +kernel
  have hsingle : (Plan.ofQuery Catalog.hosts twoHosts.inventory
      (query ⟨otherArchitecture, []⟩)).toOption.isSome = true := by decide +kernel
  obtain ⟨before, hbefore⟩ := Option.isSome_iff_exists.1 hbefore
  obtain ⟨single, hsingle⟩ := Option.isSome_iff_exists.1 hsingle
  have hids : (twoHosts.records.map (·.id)).Nodup := by decide
  obtain ⟨joined, hjoined, hall⟩ := matchedIds_joined_iff hids (toOption_eq_some_iff.1 hbefore)
    (toOption_eq_some_iff.1 hsingle) (located .and) ⟨0, 0⟩
  exact ⟨before, single, joined, toOption_eq_some_iff.1 hbefore, toOption_eq_some_iff.1 hsingle,
    hjoined, fun host hhost ↦ (hall host hhost).1⟩

open Matched in
/-- The second host is no EFI host, and still it matches together with the first. -/
theorem matchedIds_and_twoHosts :
    (twoHosts.records.map (·.id)).Nodup ∧
    ∃ before single joined,
      Plan.ofQuery Catalog.hosts twoHosts.inventory (query ⟨efi, []⟩) = .ok before ∧
      Plan.ofQuery Catalog.hosts twoHosts.inventory (query ⟨otherArchitecture, []⟩) =
        .ok single ∧
      Plan.ofQuery Catalog.hosts twoHosts.inventory
        (query (Filter.joined ⟨efi, []⟩ (located .and) otherArchitecture)) = .ok joined ∧
      before.matchedIds twoHosts = [1] ∧ single.matchedIds twoHosts = [1, 2] ∧
      joined.matchedIds twoHosts = [1, 2] := by
  have hbefore : (Plan.ofQuery Catalog.hosts twoHosts.inventory
      (query ⟨efi, []⟩)).toOption.map (·.matchedIds twoHosts) = some [1] := by decide +kernel
  have hsingle : (Plan.ofQuery Catalog.hosts twoHosts.inventory
      (query ⟨otherArchitecture, []⟩)).toOption.map (·.matchedIds twoHosts) = some [1, 2] := by
    decide +kernel
  have hjoined : (Plan.ofQuery Catalog.hosts twoHosts.inventory
      (query (Filter.joined ⟨efi, []⟩ (located .and) otherArchitecture))).toOption.map
        (·.matchedIds twoHosts) = some [1, 2] := by decide +kernel
  obtain ⟨before, hbefore, hmatchedBefore⟩ := Option.map_eq_some_iff.1 hbefore
  obtain ⟨single, hsingle, hmatchedSingle⟩ := Option.map_eq_some_iff.1 hsingle
  obtain ⟨joined, hjoined, hmatchedJoined⟩ := Option.map_eq_some_iff.1 hjoined
  exact ⟨by decide, before, single, joined, toOption_eq_some_iff.1 hbefore,
    toOption_eq_some_iff.1 hsingle, toOption_eq_some_iff.1 hjoined, hmatchedBefore,
    hmatchedSingle, hmatchedJoined⟩

end InventoryQuery
