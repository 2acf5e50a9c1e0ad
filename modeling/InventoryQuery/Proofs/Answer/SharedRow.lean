import InventoryQuery.Proofs.Answer.Judgement
import InventoryQuery.Proofs.Plan.Structure

/-!
# Conditions that share a column

The conditions of a plan find their values in one row, by the names of columns.  Of the conditions
with one column a length comes first, and otherwise the one that is written first, and all of them
get its value.  So each condition finds what its own field reads exactly in those catalogs, in which
any two conditions with one column read the same of a record.
-/

namespace InventoryQuery

variable {c : Catalog} {inventory : Inventory} {record : Record}

/-! ## What a condition asks of a record by itself -/

namespace Block

def column (b : Block) : String := b.condition.column

/-- What the field of the block reads of a record, or the length of the text that the block is
about. -/
def own (inventory : Inventory) (record : Record) (b : Block) : Value :=
  match b.length with
  | some column => column.read inventory record
  | none => b.condition.field.read inventory record

/-- What the conditions of the block say of a value. -/
def verdicts (b : Block) (v : Value) : List Bool :=
  b.conditions.map fun condition ↦ v.passes condition.test condition.given

/-- The conditions of a block are about one column. -/
structure Uniform (b : Block) : Prop where
  alternative : ∀ condition ∈ b.alternative, condition.field = b.condition.field
  length : ∀ column ∈ b.length, column.name = b.column

theorem Uniform.column_of_mem {b : Block} (h : b.Uniform) {condition : Condition}
    (hmem : condition ∈ b.conditions) : condition.column = b.column := by
  rcases List.mem_cons.1 hmem with rfl | hmem
  · rfl
  · exact congrArg Field.column (h.alternative condition (Option.mem_toList.1 hmem))

end Block

namespace Plan

theorem uniform_of_block {clause : Clause} {b : Block} (h : block c inventory clause = .ok b) :
    b.Uniform := by
  refine ⟨?_, fun column hcolumn ↦ (length_of_block h hcolumn).symm⟩
  cases clause with
  | bare field negated =>
    obtain ⟨f, -, -, rfl⟩ := block_bare_eq_ok_iff.1 h
    rintro condition ⟨⟩
  | comparison field op value =>
    obtain ⟨f, -, -, test, -, given, -, rfl⟩ := block_comparison_eq_ok_iff.1 h
    intro condition hcondition
    unfold comparison at hcondition ⊢
    split at hcondition
    · next hdiffers =>
      cases hcondition
      rw [if_pos hdiffers]
    · split at hcondition <;> cases hcondition

end Plan

/-! ## Who leads a column -/

/-- The block whose value a column of the row that they share gets. -/
def Block.leader? (blocks : List Block) (column : String) : Option Block :=
  (blocks.find? fun b ↦ b.length.any (·.name = column)).or (blocks.find? (·.column = column))

namespace Block

variable {blocks : List Block} {column : String}

theorem find?_lengths :
    ((blocks.filterMap (·.length)).find? (·.name == column)).map (·.read inventory record) =
      (blocks.find? fun b ↦ b.length.any (·.name = column)).map (·.own inventory record) := by
  induction blocks with
  | nil => rfl
  | cons b rest ih =>
    cases hlength : b.length with
    | none => rw [List.filterMap_cons_none hlength, ih, List.find?_cons_of_neg (by simp [hlength])]
    | some own =>
      rw [List.filterMap_cons_some hlength]
      by_cases hname : own.name = column
      · rw [List.find?_cons_of_pos (by simpa using hname),
          List.find?_cons_of_pos (by simpa [hlength] using hname)]
        simp [Block.own, hlength]
      · rw [List.find?_cons_of_neg (by simpa using hname),
          List.find?_cons_of_neg (by simpa [hlength] using hname), ih]

theorem find?_conditions (h : ∀ b ∈ blocks, b.Uniform) :
    (blocks.flatMap (·.conditions)).find? (·.column == column) =
      (blocks.find? (·.column = column)).map (·.condition) := by
  induction blocks with
  | nil => rfl
  | cons b rest ih =>
    obtain ⟨hb, hrest⟩ := List.forall_mem_cons.1 h
    rw [List.flatMap_cons, List.find?_append, ih hrest]
    by_cases hcolumn : b.column = column
    · have hfirst : b.conditions.find? (·.column == column) = some b.condition :=
        List.find?_cons_of_pos (beq_iff_eq.2 hcolumn)
      rw [hfirst, List.find?_cons_of_pos (by simpa using hcolumn)]
      rfl
    · have hnone : b.conditions.find? (·.column == column) = none := by
        refine List.find?_eq_none.2 fun condition hmem ↦ ?_
        rw [hb.column_of_mem hmem]
        simpa using hcolumn
      rw [hnone, List.find?_cons_of_neg (by simpa using hcolumn), Option.none_or]

theorem leader?_isSome {b : Block} (hb : b ∈ blocks) : (leader? blocks b.column).isSome := by
  have hfound : (blocks.find? (·.column = b.column)).isSome :=
    List.find?_isSome.2 ⟨b, hb, by simp⟩
  simp [leader?, hfound]

theorem mem_of_leader? (h : ∀ b ∈ blocks, b.Uniform) {leader : Block}
    (hleader : leader? blocks column = some leader) : leader ∈ blocks ∧ leader.column = column := by
  rcases Option.or_eq_some_iff.1 hleader with hfound | ⟨-, hfound⟩
  · have hmem := List.mem_of_find?_eq_some hfound
    have hany := List.find?_some hfound
    obtain ⟨own, hlength, hname⟩ := (Option.any_eq_true _ _).1 hany
    exact ⟨hmem, ((h leader hmem).length own hlength).symm.trans (of_decide_eq_true hname)⟩
  · exact ⟨List.mem_of_find?_eq_some hfound, by simpa using List.find?_some hfound⟩

end Block

/-! ## The row and the plan -/

namespace Plan

variable {q : Query} {blocks : List Block} {p : Plan}

theorem exists_blocks (h : ofQuery c inventory q = .ok p) :
    ∃ blocks, q.clauses.mapM (block c inventory) = .ok blocks ∧
      p.conditions = blocks.flatMap (·.conditions) ∧ p.lengths = blockLengths blocks := by
  obtain ⟨shown, -, blocks, hblocks, rfl⟩ := ofQuery_eq_ok_iff.1 h
  exact ⟨blocks, mapM_eq_ok_iff.2 hblocks, rfl, rfl⟩

theorem uniform_of_blocks (h : q.clauses.mapM (block c inventory) = .ok blocks) :
    ∀ b ∈ blocks, b.Uniform := by
  intro b hb
  obtain ⟨clause, -, hblock⟩ := exists_mem_of_forall₂ (mapM_eq_ok_iff.1 h) hb
  exact uniform_of_block hblock

theorem lookup_evaluationRow_eq_leader (huniform : ∀ b ∈ blocks, b.Uniform)
    (hconditions : p.conditions = blocks.flatMap (·.conditions))
    (hlengths : p.lengths = blockLengths blocks) (column : String) :
    (p.evaluationRow inventory record).lookup column =
      (Block.leader? blocks column).map (·.own inventory record) := by
  rw [lookup_evaluationRow, hlengths, blockLengths, find?_firstsBy_id, Block.find?_lengths,
    hconditions, Block.find?_conditions huniform, Option.map_map, Block.leader?]
  cases hmeasured : blocks.find? fun b ↦ b.length.any (·.name = column) with
  | some b => rfl
  | none =>
    rw [Option.map_none, Option.none_or, Option.none_or]
    apply Option.map_congr
    intro b hb
    -- A block on the column that is about a length would have been found before.
    have hlength : b.length = none := by
      cases hlength : b.length with
      | none => rfl
      | some own =>
        have hmem := List.mem_of_find?_eq_some hb
        have hcolumn : b.column = column := by simpa using List.find?_some hb
        have hname : own.name = column := ((huniform b hmem).length own hlength).trans hcolumn
        have hnot := List.find?_eq_none.1 hmeasured b hmem
        simp [hlength, hname] at hnot
    simp [Block.own, hlength]

/-- Verdicts joined by the connectives of the plan, from left to right. -/
def connected (p : Plan) : List Bool → Bool
  | [] => true
  | first :: rest => Connective.joined first (p.connectives.zip rest)

theorem truth_eq_connected (p : Plan) (judge : Condition → Bool) :
    p.truth judge = p.connected (p.conditions.map judge) := by
  unfold truth links
  cases p.conditions with
  | nil => rfl
  | cons first rest =>
    rw [List.map_cons, connected, List.zip_map_right]
    rfl

/-- Every block finds what it asks for by itself in the row that all of them share. -/
def FindsOwn (p : Plan) (blocks : List Block) (inventory : Inventory) (record : Record) : Prop :=
  ∀ b ∈ blocks, (p.evaluationRow inventory record).value b.column = b.own inventory record

theorem selects_eq_connected (huniform : ∀ b ∈ blocks, b.Uniform)
    (hconditions : p.conditions = blocks.flatMap (·.conditions)) :
    p.selects inventory record = p.connected
      (blocks.flatMap fun b ↦ b.verdicts ((p.evaluationRow inventory record).value b.column)) := by
  rw [selects_eq_truth, truth_eq_connected, hconditions, List.map_flatMap]
  congr 1
  refine List.flatMap_congr fun b hb ↦ List.map_congr_left fun condition hmem ↦ ?_
  rw [Condition.holds, (huniform b hb).column_of_mem hmem]

/-- What stands in the column of a condition is the own value of one that has the column too. -/
theorem exists_leader (hp : ofQuery c inventory q = .ok p)
    (hblocks : q.clauses.mapM (block c inventory) = .ok blocks) {b : Block} (hb : b ∈ blocks) :
    ∃ leader ∈ blocks, Block.leader? blocks b.column = some leader ∧ leader.column = b.column ∧
      (p.evaluationRow inventory record).value b.column = leader.own inventory record := by
  obtain ⟨same, hsame, hconditions, hlengths⟩ := exists_blocks hp
  obtain rfl : blocks = same := Except.ok.inj (hblocks.symm.trans hsame)
  have huniform := uniform_of_blocks hblocks
  obtain ⟨leader, hleader⟩ := Option.isSome_iff_exists.1 (Block.leader?_isSome hb)
  obtain ⟨hmem, hcolumn⟩ := Block.mem_of_leader? huniform hleader
  refine ⟨leader, hmem, hleader, hcolumn, ?_⟩
  rw [Row.value, lookup_evaluationRow_eq_leader huniform hconditions hlengths, hleader]
  rfl

/-- Which values the conditions of a query are judged on.  Each gets the value of the block that
leads its column, and they are right to take it from there, whatever the query, exactly if what two
written conditions with one column ask for never differs. -/
theorem selects_shared_iff (c : Catalog) (inventory : Inventory) (record : Record) :
    (∀ q p, ofQuery c inventory q = .ok p → ∃ blocks,
      q.clauses.mapM (block c inventory) = .ok blocks ∧
      (∀ b ∈ blocks, ∃ leader ∈ blocks, Block.leader? blocks b.column = some leader ∧
        leader.column = b.column ∧
        (p.evaluationRow inventory record).value b.column = leader.own inventory record) ∧
      p.selects inventory record = p.connected (blocks.flatMap fun b ↦
        b.verdicts ((p.evaluationRow inventory record).value b.column)) ∧
      (p.FindsOwn blocks inventory record →
        p.selects inventory record =
          p.connected (blocks.flatMap fun b ↦ b.verdicts (b.own inventory record)))) ∧
    ((∀ q p blocks, ofQuery c inventory q = .ok p →
        q.clauses.mapM (block c inventory) = .ok blocks → p.FindsOwn blocks inventory record) ↔
      ∀ clause clause' b b', block c inventory clause = .ok b →
        block c inventory clause' = .ok b' → b.column = b'.column →
          b.own inventory record = b'.own inventory record) := by
  refine ⟨fun q p hp ↦ ?_, fun hall clause clause' b b' hb hb' hcolumn ↦ ?_,
    fun hown q p blocks hp hblocks b hb ↦ ?_⟩
  · obtain ⟨blocks, hblocks, hconditions, -⟩ := exists_blocks hp
    have hselects : p.selects inventory record = p.connected (blocks.flatMap fun b ↦
        b.verdicts ((p.evaluationRow inventory record).value b.column)) :=
      selects_eq_connected (uniform_of_blocks hblocks) hconditions
    refine ⟨blocks, hblocks, fun b ↦ exists_leader hp hblocks, hselects, fun hfinds ↦ ?_⟩
    rw [hselects]
    congr 1
    exact List.flatMap_congr fun b hb ↦ by rw [hfinds b hb]
  · -- The two conditions in one query share their column.
    let q : Query := ⟨[], some ⟨clause, [(⟨.and, 0, 0⟩, clause')]⟩, 0, 0⟩
    have hp : ofQuery c inventory q = .ok (ofBlocks [] b [(.and, b')]) :=
      ofQuery_some_eq_ok_iff.2 ⟨[], .nil, b, hb, [(.and, b')], .cons ⟨rfl, hb'⟩ .nil, rfl⟩
    have hblocks : q.clauses.mapM (block c inventory) = .ok [b, b'] :=
      mapM_eq_ok_iff.2 (.cons hb (.cons hb' .nil))
    have hfinds := hall q _ _ hp hblocks
    rw [← hfinds b (by simp), ← hfinds b' (by simp), hcolumn]
  · obtain ⟨leader, hmem, -, hcolumn, hvalue⟩ := exists_leader hp hblocks hb
    have hrelated := mapM_eq_ok_iff.1 hblocks
    obtain ⟨clause, -, hclause⟩ := exists_mem_of_forall₂ hrelated hb
    obtain ⟨clause', -, hclause'⟩ := exists_mem_of_forall₂ hrelated hmem
    rw [hvalue]
    exact hown clause' clause leader b hclause' hclause hcolumn

/-! ## One column of two kinds -/

/-- A date that is also offered as a text. -/
def builtTwice : Catalog :=
  (((Catalog.empty hostsTable).withField (.stored "id" .numeric)).withField
    (.stored "built" .date)).withAlias ((Field.stored "built" .text).renamed "built_text")

def builtHost : Record := .ofList 1 [("built", .text "2024-03-01")]

/-- Two conditions on the date share its column, and both find the date there. -/
theorem selects_shared_iff_of_built :
    ∃ q p blocks, Query.read "id where built > 2024-01-01 and built < 2025-01-01" = .ok q ∧
      ofQuery builtTwice .empty q = .ok p ∧
      q.clauses.mapM (block builtTwice .empty) = .ok blocks ∧
      blocks.map (·.column) = ["built", "built"] ∧ p.FindsOwn blocks .empty builtHost ∧
      p.selects .empty builtHost = true ∧
      p.connected (blocks.flatMap fun b ↦ b.verdicts (b.own .empty builtHost)) = true := by
  have hquery : (Query.read "id where built > 2024-01-01 and built < 2025-01-01").toOption.any
      (fun q ↦ (ofQuery builtTwice .empty q).toOption.any fun p ↦ p.selects .empty builtHost &&
        (q.clauses.mapM (block builtTwice .empty)).toOption.any fun blocks ↦
          blocks.map (·.column) == ["built", "built"] && blocks.all fun b ↦
            (p.evaluationRow .empty builtHost).value b.column == b.own .empty builtHost) =
              true := by
    decide +kernel
  obtain ⟨q, hq, hplan⟩ := (Option.any_eq_true _ _).1 hquery
  obtain ⟨p, hp, hblocks⟩ := (Option.any_eq_true _ _).1 hplan
  obtain ⟨hselects, hblocks⟩ := Bool.and_eq_true_iff.1 hblocks
  obtain ⟨blocks, hmade, hown⟩ := (Option.any_eq_true _ _).1 hblocks
  obtain ⟨hcolumns, hown⟩ := Bool.and_eq_true_iff.1 hown
  have hp := toOption_eq_some_iff.1 hp
  have hmade := toOption_eq_some_iff.1 hmade
  obtain ⟨same, hsame, -, -, halone⟩ := (selects_shared_iff builtTwice .empty builtHost).1 q p hp
  obtain rfl : blocks = same := Except.ok.inj (hmade.symm.trans hsame)
  have hfinds : p.FindsOwn blocks .empty builtHost := fun b hb ↦
    beq_iff_eq.1 (List.all_eq_true.1 hown b hb)
  exact ⟨q, p, blocks, toOption_eq_some_iff.1 hq, hp, hmade, beq_iff_eq.1 hcolumns, hfinds,
    hselects, (halone hfinds).symm.trans hselects⟩

/-- Behind a condition on the text the date is judged as a text, and lost. -/
theorem selects_built_after_text :
    ∃ q p blocks, Query.read "id where built_text =~ 2024 and built > 2024-01-01" = .ok q ∧
      ofQuery builtTwice .empty q = .ok p ∧
      q.clauses.mapM (block builtTwice .empty) = .ok blocks ∧
      p.selects .empty builtHost = false ∧
      p.connected (blocks.flatMap fun b ↦ b.verdicts (b.own .empty builtHost)) = true := by
  have hquery : (Query.read "id where built_text =~ 2024 and built > 2024-01-01").toOption.any
      (fun q ↦ (ofQuery builtTwice .empty q).toOption.any fun p ↦
        (q.clauses.mapM (block builtTwice .empty)).toOption.any fun blocks ↦
          !p.selects .empty builtHost &&
            p.connected (blocks.flatMap fun b ↦ b.verdicts (b.own .empty builtHost))) = true := by
    decide +kernel
  obtain ⟨q, hq, hplan⟩ := (Option.any_eq_true _ _).1 hquery
  obtain ⟨p, hp, hblocks⟩ := (Option.any_eq_true _ _).1 hplan
  obtain ⟨blocks, hmade, hboth⟩ := (Option.any_eq_true _ _).1 hblocks
  obtain ⟨hnot, hown⟩ := Bool.and_eq_true_iff.1 hboth
  exact ⟨q, p, blocks, toOption_eq_some_iff.1 hq, toOption_eq_some_iff.1 hp,
    toOption_eq_some_iff.1 hmade, by simpa using hnot, hown⟩

end Plan

end InventoryQuery
