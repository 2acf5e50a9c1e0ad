import InventoryQuery.Proofs.Answer.Single
import InventoryQuery.Proofs.Query.RoundTrip

/-!
# Which fields are asked for

The fields of a query have no part in which records match, nor in what is shown under another field.
Queries with the same conditions select the same records, and a field that both ask for has the same
cells in both answers, wherever it stands.
-/

namespace InventoryQuery

variable {c : Catalog} {inventory : Inventory}

/-! ## Conditions in other places -/

namespace Plan

/-- What a condition becomes does not depend on its place in the text. -/
theorem block_eq_ok_iff_of_content {clause clause' : Clause} (h : clause.content = clause'.content)
    {b : Block} : block c inventory clause = .ok b ↔ block c inventory clause' = .ok b := by
  cases clause with
  | bare field negated =>
    cases clause' with
    | comparison => cases h
    | bare field' negated' =>
      obtain ⟨hfield, rfl⟩ := Clause.Content.bare.inj h
      rw [block_bare_eq_ok_iff, block_bare_eq_ok_iff, hfield]
  | comparison field op value =>
    cases clause' with
    | bare => cases h
    | comparison field' op' value' =>
      obtain ⟨hfield, hop, hvalue⟩ := Clause.Content.comparison.inj h
      simp only [block_comparison_eq_ok_iff, givenValue_eq_ok_iff, hfield, hop, hvalue]

theorem blocks_eq_of_content {written written' : List (Located Connective × Clause)}
    {blocks blocks' : List (Connective × Block)}
    (hcontent : written.map (fun (k, clause) ↦ (k.value, clause.content)) =
      written'.map fun (k, clause) ↦ (k.value, clause.content))
    (h : List.Forall₂ (BlockOf c inventory) written blocks)
    (h' : List.Forall₂ (BlockOf c inventory) written' blocks') : blocks = blocks' := by
  induction h generalizing written' blocks' with
  | nil =>
    cases h' with
    | nil => rfl
    | cons => cases hcontent
  | @cons link compiled _ _ hlink _ ih =>
    cases h' with
    | nil => cases hcontent
    | @cons link' compiled' _ _ hlink' hrest' =>
      obtain ⟨hhead, htail⟩ := List.cons.inj hcontent
      obtain ⟨hconnective, hclause⟩ := Prod.mk.inj hhead
      have hblock : compiled.2 = compiled'.2 := by
        have hother := (block_eq_ok_iff_of_content hclause).1 hlink.2
        exact Except.ok.inj (hother.symm.trans hlink'.2)
      have hsame : compiled = compiled' :=
        Prod.ext (hlink.1.trans (hconnective.trans hlink'.1.symm)) hblock
      rw [hsame, ih htail hrest']

/-- A plan shows the fields that the tokens of its query resolve to. -/
theorem forall₂_fields_of_ofQuery {q : Query} {p : Plan} (h : ofQuery c inventory q = .ok p) :
    List.Forall₂ (fun token f ↦ c.resolve? token.value = some f) q.fields p.fields := by
  obtain ⟨fields, filter, span⟩ := q
  cases filter with
  | none =>
    obtain ⟨shown, hshown, rfl⟩ := ofQuery_none_eq_ok_iff.1 h
    exact hshown
  | some filter =>
    obtain ⟨shown, hshown, first, -, rest, -, rfl⟩ := ofQuery_some_eq_ok_iff.1 h
    exact hshown

/-- Plans of the same conditions differ in the fields that they show and in nothing else. -/
theorem ofQuery_eq_withFields {q q' : Query} (hfilter : q.content.filter = q'.content.filter)
    {p p' : Plan} (h : ofQuery c inventory q = .ok p) (h' : ofQuery c inventory q' = .ok p') :
    p' = { p with fields := p'.fields } := by
  obtain ⟨fields, filter, span⟩ := q
  obtain ⟨fields', filter', span'⟩ := q'
  cases filter with
  | none =>
    cases filter' with
    | some => cases hfilter
    | none =>
      obtain ⟨shown, -, rfl⟩ := ofQuery_none_eq_ok_iff.1 h
      obtain ⟨shown', -, rfl⟩ := ofQuery_none_eq_ok_iff.1 h'
      rfl
  | some filter =>
    cases filter' with
    | none => cases hfilter
    | some filter' =>
      obtain ⟨shown, -, first, hfirst, rest, hrest, rfl⟩ := ofQuery_some_eq_ok_iff.1 h
      obtain ⟨shown', -, first', hfirst', rest', hrest', rfl⟩ := ofQuery_some_eq_ok_iff.1 h'
      obtain ⟨hhead, htail⟩ := Filter.Content.mk.inj (Option.some.inj hfilter)
      obtain rfl : first = first' := by
        have hother := (block_eq_ok_iff_of_content hhead).1 hfirst
        exact Except.ok.inj (hother.symm.trans hfirst')
      obtain rfl : rest = rest' := blocks_eq_of_content htail hrest hrest'
      rfl

end Plan

/-! ## Fields in other places -/

namespace Scope

variable {scope : Scope} {p : Plan}

/-- The fields of a plan have no part in what it selects. -/
theorem selected_withFields (fields : List Field) :
    scope.selected { p with fields := fields } = scope.selected p := rfl

/-- The cell at the place of a token is that of the field the token resolves to. -/
theorem getElem?_cells [Functions] {q : Query} (h : Plan.ofQuery c scope.inventory q = .ok p) {i : Nat}
    {token : Located String} (htoken : q.fields[i]? = some token) (record : Record) :
    (scope.cells p record)[i]? =
      (c.resolve? token.value).map fun f ↦ (f.token, f.cell scope.inventory record) := by
  have hfields := Plan.forall₂_fields_of_ofQuery h
  obtain ⟨f, hf, hresolve⟩ := exists_getElem?_of_forall₂ hfields htoken
  rw [cells, List.getElem?_map, hf, hresolve, Option.map_some]

/-- Two queries with the same conditions both find nothing, or their answers have rows for the same
records, in one order, with the same cell wherever their tokens resolve to the same field. -/
theorem run_projections_agree [Functions] {source source' : String} {q q' : Query} {p p' : Plan}
    (hread : Query.read source = .ok q) (hread' : Query.read source' = .ok q')
    (hfilter : q.content.filter = q'.content.filter)
    (hplan : Plan.ofSource c scope.inventory source = .ok p)
    (hplan' : Plan.ofSource c scope.inventory source' = .ok p') :
    (scope.run c source = .error (.answer .noResults) ∧
      scope.run c source' = .error (.answer .noResults)) ∨
    ∃ (records : List Record) (answer answer' : Answer), records.Sublist scope.records ∧
      scope.run c source = .ok answer ∧ scope.run c source' = .ok answer' ∧
      answer.rows = records.map (scope.cells p) ∧ answer'.rows = records.map (scope.cells p') ∧
      ∀ (i j : Nat) (token token' : Located String),
        q.fields[i]? = some token → q'.fields[j]? = some token' →
        c.resolve? token.value = c.resolve? token'.value → ∀ k < records.length,
          ∃ row row' cell, answer.rows[k]? = some row ∧ answer'.rows[k]? = some row' ∧
            row[i]? = some cell ∧ row'[j]? = some cell := by
  have hquery := (Plan.ofSource_eq_ok_iff_of_read hread).1 hplan
  have hquery' := (Plan.ofSource_eq_ok_iff_of_read hread').1 hplan'
  have hselected : scope.selected p' = scope.selected p := by
    rw [Plan.ofQuery_eq_withFields hfilter hquery hquery', selected_withFields]
  rw [run_eq_selected hplan, run_eq_selected hplan', hselected]
  by_cases hnone : scope.selected p = []
  · exact .inl ⟨if_pos hnone, if_pos hnone⟩
  · refine .inr ⟨scope.selected p, _, _, ?_, if_neg hnone, if_neg hnone, rfl, rfl, ?_⟩
    · exact List.filter_sublist.trans (leadersBy_sublist _ _)
    · intro i j token token' htoken htoken' hresolve k hk
      let record := (scope.selected p)[k]
      obtain ⟨f, hf, hshown⟩ := exists_getElem?_of_forall₂
        (Plan.forall₂_fields_of_ofQuery hquery) htoken
      refine ⟨scope.cells p record, scope.cells p' record,
        (f.token, f.cell scope.inventory record), ?_, ?_, ?_, ?_⟩
      · rw [List.getElem?_map, List.getElem?_eq_getElem hk, Option.map_some]
      · rw [List.getElem?_map, List.getElem?_eq_getElem hk, Option.map_some]
      · rw [getElem?_cells hquery htoken, hshown, Option.map_some]
      · rw [getElem?_cells hquery' htoken', ← hresolve, hshown, Option.map_some]

/-- One host of two, whose rank, which is computed by a function that hosts do not have, is asked for
at another place. -/
theorem run_projections_agree_of_rank :
    let _ : Functions := ⟨fun _ _ host ↦ .int (host + 6)⟩
    let c := Catalog.hosts.withComputed (.computed "rank" .numeric ⟨"rank", 4⟩)
    let scope : Scope := ⟨.empty, hostsTable,
      [.ofList 1 [("efi", .bool true), ("fqdn", .text "a.test")], .empty 2]⟩
    ∃ answer answer' row row',
      scope.run c "rank, id where efi" = .ok answer ∧
      scope.run c "id, interfaces, fqdn, rank where efi" = .ok answer' ∧
      answer.rows.length = 1 ∧ answer.rows[0]? = some row ∧ answer'.rows[0]? = some row' ∧
      row[0]? = some ("rank", .int 7) ∧ row'[3]? = some ("rank", .int 7) := by
  intro _ c scope
  have hquery : (Query.read "rank, id where efi").toOption.any (fun q ↦
      q.fields[0]? = some ⟨"rank", 0, 4⟩ ∧ q.content.filter = some ⟨.bare "efi" false, []⟩) =
        true := by
    decide +kernel
  have hquery' : (Query.read "id, interfaces, fqdn, rank where efi").toOption.any (fun q ↦
      q.fields[3]? = some ⟨"rank", 22, 26⟩ ∧ q.content.filter = some ⟨.bare "efi" false, []⟩) =
        true := by
    decide +kernel
  have hplans : (Plan.ofSource c scope.inventory "rank, id where efi").toOption.isSome = true ∧
      (Plan.ofSource c scope.inventory
        "id, interfaces, fqdn, rank where efi").toOption.isSome = true := by
    decide +kernel
  have hrun : (scope.run c "rank, id where efi").toOption.any (fun answer ↦
      answer.rows.length = 1 ∧ answer.rows.all (·[0]? = some ("rank", .int 7))) = true := by
    decide +kernel
  obtain ⟨q, hread, hq⟩ := (Option.any_eq_true _ _).1 hquery
  obtain ⟨q', hread', hq'⟩ := (Option.any_eq_true _ _).1 hquery'
  obtain ⟨p, hplan⟩ := Option.isSome_iff_exists.1 hplans.1
  obtain ⟨p', hplan'⟩ := Option.isSome_iff_exists.1 hplans.2
  obtain ⟨found, hfound, hcomputed⟩ := (Option.any_eq_true _ _).1 hrun
  rw [toOption_eq_some_iff] at hread hread' hplan hplan' hfound
  rw [decide_eq_true_eq] at hq hq' hcomputed
  obtain ⟨hone, hrank⟩ := hcomputed
  rcases run_projections_agree hread hread' (hq.2.trans hq'.2.symm) hplan hplan' with
    ⟨hnone, -⟩ | ⟨records, answer, answer', -, hanswer, hanswer', hrows, -, hcells⟩
  · rw [hfound] at hnone
    cases hnone
  · obtain rfl : found = answer := Except.ok.inj (hfound.symm.trans hanswer)
    have hlength : 0 < records.length := by
      rw [hrows, List.length_map] at hone
      rw [hone]
      exact Nat.one_pos
    obtain ⟨row, row', cell, hrow, hrow', hcell, hcell'⟩ := hcells 0 3 _ _ hq.1 hq'.1 rfl 0 hlength
    have hseven : row[0]? = some ("rank", .int 7) :=
      of_decide_eq_true (List.all_eq_true.1 hrank row (List.mem_of_getElem? hrow))
    obtain rfl := Option.some.inj (hcell.symm.trans hseven)
    exact ⟨found, answer', row, row', hanswer, hanswer', hone, hrow, hrow', hcell, hcell'⟩

end Scope

end InventoryQuery
