import InventoryQuery.Proofs.Answer.SharedRow
import InventoryQuery.Proofs.Answer.Single

/-!
# Other names for a field

Fields that differ only in what they are called are read, compared and shown alike.  A token may
stand for the other wherever a query names a field, and nothing changes but the names: the plan is
there or not, the same records match in the same order, and every cell holds the same value.  The
rows that conditions share and the lists without repetitions go by names on the way, so that columns
may become one or fall apart, but only columns with equal values.
-/

namespace InventoryQuery

variable {c : Catalog} {inventory : Inventory} {record : Record}

/-! ## Fields -/

namespace Field

/-- Fields that differ in the token and the label at most. -/
def Alike (f g : Field) : Prop :=
  ∃ token label, g = { f with token := token, label := label }

variable {f g : Field}

theorem Alike.refl (f : Field) : f.Alike f := ⟨f.token, f.label, rfl⟩

theorem Alike.symm (h : f.Alike g) : g.Alike f := by
  obtain ⟨token, label, rfl⟩ := h
  exact ⟨f.token, f.label, rfl⟩

theorem Alike.isComputed_eq (h : f.Alike g) : g.isComputed = f.isComputed := by
  obtain ⟨token, label, rfl⟩ := h
  rfl

theorem Alike.kind_eq (h : f.Alike g) : g.kind = f.kind := by
  obtain ⟨token, label, rfl⟩ := h
  rfl

theorem Alike.read_eq (h : f.Alike g) (inventory : Inventory) (record : Record) :
    g.read inventory record = f.read inventory record := by
  obtain ⟨token, label, rfl⟩ := h
  rfl

/-- The column of a stored field is named after the place where it is stored. -/
theorem Alike.column_eq (h : f.Alike g) (hstored : f.isComputed = false) : g.column = f.column := by
  have hboth : g.isComputed = false := h.isComputed_eq.trans hstored
  obtain ⟨token, label, rfl⟩ := h
  unfold column
  rw [hstored, hboth]
  rfl

/-- Only the token of the id matters to what is shown. -/
theorem Alike.cell_eq [Functions] (h : f.Alike g) (hf : f.token ≠ Record.idName) (hg : g.token ≠ Record.idName)
    (inventory : Inventory) (record : Record) :
    g.cell inventory record = f.cell inventory record := by
  have hraw : g.raw inventory record = f.raw inventory record := by
    unfold raw
    rw [if_neg hf, if_neg hg, h.read_eq]
    obtain ⟨token, label, rfl⟩ := h
    rfl
  unfold cell
  rw [hraw]
  obtain ⟨token, label, rfl⟩ := h
  rfl

theorem Alike.shownField (h : f.Alike g) :
    (f.shownField?.getD f).Alike (g.shownField?.getD g) := by
  obtain ⟨token, label, rfl⟩ := h
  unfold shownField?
  split
  · next hcomputation hrendering => exact ⟨token, label, by simp [hcomputation, hrendering]⟩
  · exact ⟨token, label, by simp⟩

/-- The token is told in the fault of a literal and nowhere else. -/
theorem Alike.given_iff (h : f.Alike g) {test : Test} {text : String} {given : Value} :
    g.Given inventory test text given ↔ f.Given inventory test text given := by
  have hlookup (lookup : NameLookup) (token : String) :
      lookup.value inventory token text = .ok given ↔
        (inventory.idOf? lookup.table lookup.key text).map .int = some given := by
    unfold NameLookup.value
    cases inventory.idOf? lookup.table lookup.key text with
    | none => simp
    | some id => simp
  obtain ⟨token, label, rfl⟩ := h
  simp only [Given, TakesForOpenEnd, hlookup]

theorem Alike.bare_cases (h : f.Alike g) (negated : Bool) :
    (∃ test given, f.bare negated = ⟨⟨f, test, given⟩, none⟩ ∧
      g.bare negated = ⟨⟨g, test, given⟩, none⟩) ∨
    ∃ test given, f.bare negated = ⟨⟨f.lengthField, test, given⟩, some f.lengthColumn⟩ ∧
      g.bare negated = ⟨⟨g.lengthField, test, given⟩, some g.lengthColumn⟩ := by
  have hnullable : g.nullable = f.nullable := by
    obtain ⟨token, label, rfl⟩ := h
    rfl
  unfold bare
  rw [hnullable, h.kind_eq]
  split
  · exact .inl ⟨_, _, rfl, rfl⟩
  · cases f.kind with
    | text | longText => exact .inr ⟨_, _, rfl, rfl⟩
    | _ => exact .inl ⟨_, _, rfl, rfl⟩

end Field

/-! ## Conditions -/

/-- Blocks that ask the same of every record, in columns with one name. -/
structure Block.Alike (inventory : Inventory) (b b' : Block) : Prop where
  column : b'.column = b.column
  measured : b'.length.isSome = b.length.isSome
  own : ∀ record, b'.own inventory record = b.own inventory record
  verdicts : ∀ v, b'.verdicts v = b.verdicts v

theorem Block.Alike.length_conditions {b b' : Block} (h : b.Alike inventory b') :
    b'.conditions.length = b.conditions.length := by
  simpa [Block.verdicts] using congrArg List.length (h.verdicts .null)

namespace Plan

section Fields

variable {f g : Field} (h : f.Alike g) (hstored : f.isComputed = false)

include h hstored

theorem alike_tests (test : Test) (other : Option Test) (given : Value) :
    Block.Alike inventory ⟨⟨f, test, given⟩, other.map (⟨f, ·, given⟩), none⟩
      ⟨⟨g, test, given⟩, other.map (⟨g, ·, given⟩), none⟩ where
  column := h.column_eq hstored
  measured := rfl
  own := h.read_eq inventory
  verdicts v := by
    unfold Block.verdicts Block.conditions
    cases other with
    | none => rfl
    | some other => rfl

theorem alike_lengths (test : Test) (given : Value) :
    Block.Alike inventory ⟨⟨f.lengthField, test, given⟩, none, some f.lengthColumn⟩
      ⟨⟨g.lengthField, test, given⟩, none, some g.lengthColumn⟩ where
  column := by
    have hname : g.lengthColumn.name = f.lengthColumn.name := by
      unfold Field.lengthColumn
      rw [h.column_eq hstored]
    exact hname
  measured := rfl
  own record := congrArg Value.charLength (h.read_eq inventory record)
  verdicts _ := rfl

theorem alike_bare (negated : Bool) :
    Block.Alike inventory ⟨(f.bare negated).condition, none, (f.bare negated).length⟩
      ⟨(g.bare negated).condition, none, (g.bare negated).length⟩ := by
  rcases h.bare_cases negated with ⟨test, given, hf, hg⟩ | ⟨test, given, hf, hg⟩
  · rw [hf, hg]
    exact alike_tests h hstored test none given
  · rw [hf, hg]
    exact alike_lengths h hstored test given

theorem alike_comparison (test : Test) (given : Value) :
    Block.Alike inventory (comparison f test given) (comparison g test given) := by
  unfold comparison
  rw [h.kind_eq]
  split
  · exact alike_tests h hstored .greater (some .less) given
  · split
    · have hshown : (f.shownField?.getD f).isComputed = false := by
        cases hfield : f.shownField? with
        | none => exact hstored
        | some shown => exact Field.isComputed_of_mem_shownField? hfield
      exact alike_tests h.shownField hshown test none given
    · exact alike_tests h hstored test none given

end Fields

end Plan

/-! ## Tokens -/

/-- Tokens that are equal, or lead to fields which differ in their names only and are not called
like the id. -/
def Catalog.Interchangeable (c : Catalog) (token token' : String) : Prop :=
  token = token' ∨ ∃ f g, c.resolve? token = some f ∧ c.resolve? token' = some g ∧ f.Alike g ∧
    f.token ≠ Record.idName ∧ g.token ≠ Record.idName

theorem Catalog.Interchangeable.symm {token token' : String}
    (h : c.Interchangeable token token') : c.Interchangeable token' token := by
  rcases h with rfl | ⟨f, g, hf, hg, halike, hfid, hgid⟩
  · exact .inl rfl
  · exact .inr ⟨g, f, hg, hf, halike.symm, hgid, hfid⟩

theorem Catalog.Interchangeable.exists_resolve? [Functions] {token token' : String}
    (h : c.Interchangeable token token') {f : Field} (hf : c.resolve? token = some f) :
    ∃ g, c.resolve? token' = some g ∧ f.Alike g ∧
      ∀ inventory record, g.cell inventory record = f.cell inventory record := by
  rcases h with rfl | ⟨f', g, hf', hg, halike, hfid, hgid⟩
  · exact ⟨f, hf, .refl f, fun _ _ ↦ rfl⟩
  · obtain rfl : f' = f := Option.some.inj (hf'.symm.trans hf)
    exact ⟨g, hg, halike, halike.cell_eq hfid hgid⟩

/-- The same condition, on tokens that are related. -/
inductive Clause.Renamed (related : String → String → Prop) : Clause → Clause → Prop
  | comparison {field field' value value' : Located String} {op op' : Located Operator}
      (hfield : related field.value field'.value) (hop : op.value = op'.value)
      (hvalue : value.value = value'.value) :
      Renamed related (.comparison field op value) (.comparison field' op' value')
  | bare {field field' : Located String} {negated : Bool}
      (hfield : related field.value field'.value) :
      Renamed related (.bare field negated) (.bare field' negated)

/-- The same query, on tokens that are related.  Where its parts stand does not count. -/
structure Query.Renamed (related : String → String → Prop) (q q' : Query) : Prop where
  fields : List.Forall₂ (fun token token' ↦ related token.value token'.value) q.fields q'.fields
  clauses : List.Forall₂ (Clause.Renamed related) q.clauses q'.clauses
  connectives : q.connectives.map (·.value) = q'.connectives.map (·.value)

theorem Clause.Renamed.imp {related related' : String → String → Prop}
    (h : ∀ token token', related token token' → related' token token') {clause clause' : Clause}
    (hclause : clause.Renamed related clause') : clause.Renamed related' clause' := by
  cases hclause with
  | comparison hfield hop hvalue => exact .comparison (h _ _ hfield) hop hvalue
  | bare hfield => exact .bare (h _ _ hfield)

theorem Query.Renamed.imp {related related' : String → String → Prop}
    (h : ∀ token token', related token token' → related' token token') {q q' : Query}
    (hq : q.Renamed related q') : q.Renamed related' q' where
  fields := hq.fields.imp fun _ _ ↦ h _ _
  clauses := hq.clauses.imp fun _ _ ↦ Clause.Renamed.imp h
  connectives := hq.connectives

theorem Clause.Renamed.symm {clause clause' : Clause}
    (h : clause.Renamed c.Interchangeable clause') : clause'.Renamed c.Interchangeable clause := by
  cases h with
  | comparison hfield hop hvalue => exact .comparison hfield.symm hop.symm hvalue.symm
  | bare hfield => exact .bare hfield.symm

theorem Query.Renamed.symm {q q' : Query} (h : q.Renamed c.Interchangeable q') :
    q'.Renamed c.Interchangeable q where
  fields := (h.fields.imp fun _ _ ↦ Catalog.Interchangeable.symm).flip
  clauses := (h.clauses.imp fun _ _ ↦ Clause.Renamed.symm).flip
  connectives := h.connectives.symm

/-! ## Plans -/

namespace Plan

variable {blocks blocks' : List Block} {p p' : Plan}

theorem exists_block_alike {clause clause' : Clause} (h : clause.Renamed c.Interchangeable clause')
    {b : Block} (hb : block c inventory clause = .ok b) :
    ∃ b', block c inventory clause' = .ok b' ∧ b.Alike inventory b' := by
  cases h with
  | bare hfield =>
    obtain ⟨f, hf, hstored, rfl⟩ := block_bare_eq_ok_iff.1 hb
    obtain ⟨g, hg, halike, -⟩ := hfield.exists_resolve? hf
    have hstored' : g.isComputed = false := halike.isComputed_eq.trans hstored
    exact ⟨_, block_bare_eq_ok_iff.2 ⟨g, hg, hstored', rfl⟩, alike_bare halike hstored _⟩
  | comparison hfield hop hvalue =>
    obtain ⟨f, hf, hstored, test, htest, given, hgiven, rfl⟩ := block_comparison_eq_ok_iff.1 hb
    obtain ⟨g, hg, halike, -⟩ := hfield.exists_resolve? hf
    have hstored' : g.isComputed = false := halike.isComputed_eq.trans hstored
    rw [hop, ← halike.kind_eq] at htest
    rw [givenValue_eq_ok_iff, ← halike.given_iff, hvalue, ← givenValue_eq_ok_iff] at hgiven
    exact ⟨_, block_comparison_eq_ok_iff.2 ⟨g, hg, hstored', test, htest, given, hgiven, rfl⟩,
      alike_comparison halike hstored test given⟩

/-- Only how many conditions each block has matters to the connectives. -/
theorem throughout_of_alike (h : List.Forall₂ (Block.Alike inventory) blocks blocks')
    (written : List Connective) :
    Connective.throughout written (blocks'.map (·.conditions)) =
      Connective.throughout written (blocks.map (·.conditions)) := by
  have hwithin {b b' : Block} (hb : b.Alike inventory b') :
      Connective.within b'.conditions = Connective.within b.conditions := by
    unfold Connective.within
    rw [List.map_const', List.map_const', List.length_tail, List.length_tail, hb.length_conditions]
  have hrest : ∀ {rest rest' : List Block}, List.Forall₂ (Block.Alike inventory) rest rest' →
      (written.zip (rest'.map (·.conditions))).flatMap (fun k ↦ k.1 :: Connective.within k.2) =
        (written.zip (rest.map (·.conditions))).flatMap fun k ↦ k.1 :: Connective.within k.2 := by
    intro rest rest' hrest
    induction hrest generalizing written with
    | nil => rfl
    | cons hb _ ih =>
      cases written with
      | nil => rfl
      | cons k written =>
        simp only [List.map_cons, List.zip_cons_cons, List.flatMap_cons, hwithin hb, ih written]
  cases h with
  | nil => rfl
  | cons hb htail => exact congrArg₂ (· ++ ·) (hwithin hb) (hrest htail)

end Plan

/-! ## Who leads a column -/

namespace Block

variable {blocks blocks' : List Block}

theorem map_find?_of_alike (h : List.Forall₂ (Block.Alike inventory) blocks blocks')
    {chosen : Block → Bool} (hchosen : ∀ b ∈ blocks, ∀ b' ∈ blocks', b.Alike inventory b' →
      chosen b' = chosen b) (record : Record) :
    (blocks'.find? chosen).map (·.own inventory record) =
      (blocks.find? chosen).map (·.own inventory record) := by
  induction h with
  | nil => rfl
  | @cons b b' rest rest' hb _ ih =>
    have hsame := hchosen b List.mem_cons_self b' List.mem_cons_self hb
    rw [List.find?_cons, List.find?_cons, hsame]
    cases chosen b with
    | true => exact congrArg some (hb.own record)
    | false =>
      exact ih fun b hb b' hb' ↦
        hchosen b (List.mem_cons_of_mem _ hb) b' (List.mem_cons_of_mem _ hb')

/-- A length column of a block is the column of its conditions. -/
theorem Uniform.any_length {b : Block} (h : b.Uniform) (column : String) :
    b.length.any (·.name = column) = (b.length.isSome && b.column = column) := by
  cases hlength : b.length with
  | none => rfl
  | some own => simp [h.length own hlength]

theorem map_leader?_of_alike (h : List.Forall₂ (Block.Alike inventory) blocks blocks')
    (hblocks : ∀ b ∈ blocks, b.Uniform) (hblocks' : ∀ b ∈ blocks', b.Uniform) (column : String)
    (record : Record) :
    (leader? blocks' column).map (·.own inventory record) =
      (leader? blocks column).map (·.own inventory record) := by
  unfold leader?
  rw [Option.map_or, Option.map_or]
  congr 1
  · refine map_find?_of_alike h (fun b hb b' hb' halike ↦ ?_) record
    rw [(hblocks b hb).any_length, (hblocks' b' hb').any_length, halike.column, halike.measured]
  · exact map_find?_of_alike h (fun b _ b' _ halike ↦ by rw [halike.column]) record

end Block

namespace Plan

variable {blocks blocks' : List Block} {p p' : Plan} {q q' : Query}

theorem flatMap_verdicts_of_alike (h : List.Forall₂ (Block.Alike inventory) blocks blocks')
    (value : String → Value) :
    blocks'.flatMap (fun b ↦ b.verdicts (value b.column)) =
      blocks.flatMap fun b ↦ b.verdicts (value b.column) := by
  induction h with
  | nil => rfl
  | cons hb _ ih => rw [List.flatMap_cons, List.flatMap_cons, hb.verdicts, hb.column, ih]

/-- Plans of alike blocks with the same connectives select the same records. -/
theorem selects_eq_of_alike (h : List.Forall₂ (Block.Alike inventory) blocks blocks')
    (huniform : ∀ b ∈ blocks, b.Uniform) (huniform' : ∀ b ∈ blocks', b.Uniform)
    (hp : p.conditions = blocks.flatMap (·.conditions) ∧ p.lengths = blockLengths blocks)
    (hp' : p'.conditions = blocks'.flatMap (·.conditions) ∧ p'.lengths = blockLengths blocks')
    (hconnectives : p'.connectives = p.connectives) (record : Record) :
    p'.selects inventory record = p.selects inventory record := by
  have hvalue (column : String) : (p'.evaluationRow inventory record).value column =
      (p.evaluationRow inventory record).value column := by
    unfold Row.value
    rw [lookup_evaluationRow_eq_leader huniform' hp'.1 hp'.2,
      lookup_evaluationRow_eq_leader huniform hp.1 hp.2,
      Block.map_leader?_of_alike h huniform huniform']
  rw [selects_eq_connected huniform' hp'.1, selects_eq_connected huniform hp.1]
  simp only [hvalue]
  rw [flatMap_verdicts_of_alike h]
  unfold connected
  rw [hconnectives]

theorem uniform_of_forall₂
    (h : List.Forall₂ (fun clause b ↦ block c inventory clause = .ok b) q.clauses blocks) :
    ∀ b ∈ blocks, b.Uniform :=
  uniform_of_blocks (mapM_eq_ok_iff.2 h)

/-- A renamed query has a plan where the query has one, and the plans select the same and show the
same. -/
theorem exists_ofQuery_renamed [Functions] (h : q.Renamed c.Interchangeable q')
    (hp : ofQuery c inventory q = .ok p) :
    ∃ p', ofQuery c inventory q' = .ok p' ∧
      (∀ record, p'.selects inventory record = p.selects inventory record) ∧
      List.Forall₂ (fun f g : Field ↦ f.Alike g ∧
        ∀ inventory record, g.cell inventory record = f.cell inventory record)
        p.fields p'.fields := by
  obtain ⟨shown, hshown, blocks, hblocks, rfl⟩ := ofQuery_eq_ok_iff.1 hp
  obtain ⟨shown', hshown', hcells⟩ :=
    exists_forall₂_of_related h.fields hshown fun _ _ _ hrelated ↦ hrelated.exists_resolve?
  obtain ⟨blocks', hblocks', halike⟩ :=
    exists_forall₂_of_related h.clauses hblocks fun _ _ _ hrelated ↦ exists_block_alike hrelated
  refine ⟨_, ofQuery_eq_ok_iff.2 ⟨shown', hshown', blocks', hblocks', rfl⟩, ?_, hcells⟩
  refine selects_eq_of_alike halike (uniform_of_forall₂ hblocks) (uniform_of_forall₂ hblocks')
    ⟨rfl, rfl⟩ ⟨rfl, rfl⟩ ?_
  rw [← h.connectives]
  exact throughout_of_alike halike _

end Plan

/-! ## Answers -/

namespace Scope

variable {scope : Scope} {q q' : Query} {p p' : Plan}

theorem map_cells_of_alike [Functions] {shown shown' : List Field}
    (h : List.Forall₂ (fun f g : Field ↦ f.Alike g ∧
      ∀ inventory record, g.cell inventory record = f.cell inventory record) shown shown')
    (record : Record) :
    shown'.map (fun g ↦ g.cell scope.inventory record) =
      shown.map fun f ↦ f.cell scope.inventory record := by
  induction h with
  | nil => rfl
  | cons hcell _ ih => rw [List.map_cons, List.map_cons, hcell.2, ih]

/-- A query in which any occurrences of a token are replaced has a plan where the query has one, and
both find nothing, or the same records in the same order, with the same values in all cells. -/
theorem renamed_answers_agree [Functions] {t t' : String} {f g : Field} (hf : c.resolve? t = some f)
    (hg : c.resolve? t' = some g) (halike : f.Alike g) (hfid : f.token ≠ Record.idName)
    (hgid : g.token ≠ Record.idName)
    (hq : q.Renamed (fun token token' ↦ token = token' ∨ token = t ∧ token' = t') q') :
    ((∃ p, Plan.ofQuery c scope.inventory q = .ok p) ↔
      ∃ p', Plan.ofQuery c scope.inventory q' = .ok p') ∧
    ∀ p p', Plan.ofQuery c scope.inventory q = .ok p → Plan.ofQuery c scope.inventory q' = .ok p' →
      (p.answer scope = .error .noResults ∧ p'.answer scope = .error .noResults) ∨
      ∃ (records : List Record) (answer answer' : Answer), records.Sublist scope.records ∧
        p.rows scope = .ok (records.map (p.row scope.inventory)) ∧
        p'.rows scope = .ok (records.map (p'.row scope.inventory)) ∧
        p.answer scope = .ok answer ∧ p'.answer scope = .ok answer' ∧
        answer.rows = records.map (scope.cells p) ∧ answer'.rows = records.map (scope.cells p') ∧
        answer'.rows.map (·.map (·.2)) = answer.rows.map (·.map (·.2)) := by
  have hrenamed : q.Renamed c.Interchangeable q' := by
    refine hq.imp fun token token' hrelated ↦ ?_
    rcases hrelated with rfl | ⟨rfl, rfl⟩
    · exact .inl rfl
    · exact .inr ⟨f, g, hf, hg, halike, hfid, hgid⟩
  refine ⟨⟨fun ⟨p, hp⟩ ↦ ?_, fun ⟨p', hp'⟩ ↦ ?_⟩, fun p p' hp hp' ↦ ?_⟩
  · obtain ⟨p', hp', -⟩ := Plan.exists_ofQuery_renamed hrenamed hp
    exact ⟨p', hp'⟩
  · obtain ⟨p, hp, -⟩ := Plan.exists_ofQuery_renamed hrenamed.symm hp'
    exact ⟨p, hp⟩
  obtain ⟨same, hsame, hselects, hshown⟩ := Plan.exists_ofQuery_renamed hrenamed hp
  obtain rfl : p' = same := Except.ok.inj (hp'.symm.trans hsame)
  have hselected : scope.selected p' = scope.selected p :=
    List.filter_congr fun record _ ↦ hselects record
  have hfits := Plan.ofQuery_fits hp
  have hfits' := Plan.ofQuery_fits hp'
  rw [hfits.answer_eq_selected, hfits'.answer_eq_selected, hfits.rows_eq_selected,
    hfits'.rows_eq_selected, hselected]
  by_cases hnone : scope.selected p = []
  · exact .inl ⟨if_pos hnone, if_pos hnone⟩
  · refine .inr ⟨scope.selected p, _, _, List.filter_sublist.trans (leadersBy_sublist _ _),
      if_neg hnone, if_neg hnone, if_neg hnone, if_neg hnone, rfl, rfl, ?_⟩
    simp only [List.map_map]
    refine List.map_congr_left fun record _ ↦ ?_
    simpa [cells, Function.comp_def] using map_cells_of_alike hshown record

/-- One host of two, whose architecture is asked for under one name or under two, beside a rank that
is computed by a function that hosts do not have. -/
theorem renamed_answers_agree_of_architecture :
    let _ : Functions := ⟨fun _ _ host ↦ .int (host + 6)⟩
    let c := Catalog.hosts.withComputed (.computed "rank" .numeric ⟨"rank", 4⟩)
    let scope : Scope := ⟨.ofTables [("architectures", [.ofList 1 [("name", .text "arm")]])],
      hostsTable, [.ofList 1 [("architecture", .int 1)], .empty 2]⟩
    ∃ q q' p p', Query.read "architecture, rank, architecture where architecture = arm" = .ok q ∧
      Query.read "architecture, rank, arch where arch = arm" = .ok q' ∧
      Plan.ofQuery c scope.inventory q = .ok p ∧ Plan.ofQuery c scope.inventory q' = .ok p' ∧
      ∃ answer answer', p.answer scope = .ok answer ∧ p'.answer scope = .ok answer' ∧
        answer.rows.map (·.map (·.2)) = [[.text "arm", .int 7, .text "arm"]] ∧
        answer'.rows.map (·.map (·.2)) = answer.rows.map (·.map (·.2)) := by
  intro _ c scope
  let q : Query := ⟨[⟨"architecture", 0, 12⟩, ⟨"rank", 14, 18⟩, ⟨"architecture", 20, 32⟩],
    some ⟨.comparison ⟨"architecture", 39, 51⟩ ⟨.equal, 52, 53⟩ ⟨"arm", 54, 57⟩, []⟩, 0, 57⟩
  let q' : Query := ⟨[⟨"architecture", 0, 12⟩, ⟨"rank", 14, 18⟩, ⟨"arch", 20, 24⟩],
    some ⟨.comparison ⟨"arch", 31, 35⟩ ⟨.equal, 36, 37⟩ ⟨"arm", 38, 41⟩, []⟩, 0, 41⟩
  have hread : Query.read "architecture, rank, architecture where architecture = arm" = .ok q ∧
      Query.read "architecture, rank, arch where arch = arm" = .ok q' := by
    decide +kernel
  have hrenamed : q.Renamed
      (fun token token' ↦ token = token' ∨ token = "architecture" ∧ token' = "arch") q' :=
    ⟨.cons (.inl rfl) (.cons (.inl rfl) (.cons (.inr ⟨rfl, rfl⟩) .nil)),
      .cons (.comparison (.inr ⟨rfl, rfl⟩) rfl rfl) .nil, rfl⟩
  let f := Field.reference "architecture" "architectures" "name"
  let g := (f.renamed "arch").labelled "Architecture"
  have hresolve : c.resolve? "architecture" = some f ∧ c.resolve? "arch" = some g ∧
      f.token ≠ Record.idName ∧ g.token ≠ Record.idName := by
    decide +kernel
  have hanswer : (Plan.ofQuery c scope.inventory q).toOption.any (fun p ↦
      (p.answer scope).toOption.any fun answer ↦
        answer.rows.map (·.map (·.2)) = [[.text "arm", .int 7, .text "arm"]]) = true := by
    decide +kernel
  obtain ⟨hf, hg, hfid, hgid⟩ := hresolve
  obtain ⟨p, hp, hany⟩ := (Option.any_eq_true _ _).1 hanswer
  obtain ⟨found, hfound, hcells⟩ := (Option.any_eq_true _ _).1 hany
  rw [toOption_eq_some_iff] at hp hfound
  rw [decide_eq_true_eq] at hcells
  obtain ⟨hplans, hagree⟩ :=
    @renamed_answers_agree c scope q q' _ _ _ f g hf hg ⟨_, _, rfl⟩ hfid hgid hrenamed
  obtain ⟨p', hp'⟩ := hplans.1 ⟨p, hp⟩
  rcases hagree p p' hp hp' with
    ⟨hnone, -⟩ | ⟨records, answer, answer', -, -, -, hanswer, hanswer', -, -, hvalues⟩
  · rw [hfound] at hnone
    cases hnone
  · obtain rfl : found = answer := Except.ok.inj (hfound.symm.trans hanswer)
    exact ⟨q, q', p, p', hread.1, hread.2, hp, hp', found, answer', hanswer, hanswer', hcells,
      hvalues⟩

end Scope

end InventoryQuery
