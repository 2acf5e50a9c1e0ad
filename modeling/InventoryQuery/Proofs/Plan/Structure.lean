import InventoryQuery.Proofs.Plan.Fields
import InventoryQuery.Proofs.Plan.Joined

/-!
# The structure of a plan

A plan has one field for every token that is asked for and one block of conditions for every
written condition, all in the order in which they are written.  Between the blocks stand the written
connectives, and inside a block of two an `or`, so that the predicate of the plan joins all of its
conditions.  There is one length column for every text whose length is asked for.
-/

namespace InventoryQuery

variable {c : Catalog} {inventory : Inventory}

/-! ## What written conditions become -/

/-- The block of conditions that a written condition becomes.  Only for a reference that is to
differ from an id there are two. -/
inductive Clause.Becomes (c : Catalog) (inventory : Inventory) : Clause → List Condition → Prop
  | bare {field : Located String} {negated : Bool} {f : Field}
      (hresolve : c.resolve? field.value = some f) :
      Becomes c inventory (.bare field negated) [(f.bare negated).condition]
  | apart {field value : Located String} {op : Located Operator} {f : Field} {given : Value}
      (hresolve : c.resolve? field.value = some f) (hkind : f.kind = .reference)
      (hop : op.value = .notEqual)
      (hgiven : Plan.givenValue inventory f .notEqual value = .ok given) :
      Becomes c inventory (.comparison field op value) [⟨f, .greater, given⟩, ⟨f, .less, given⟩]
  | single {field value : Located String} {op : Located Operator} {f : Field} {test : Test}
      {given : Value} (hresolve : c.resolve? field.value = some f)
      (hother : ¬(f.kind = .reference ∧ op.value = .notEqual))
      (htest : op.value.test? f.kind = some test)
      (hgiven : Plan.givenValue inventory f test value = .ok given) :
      Becomes c inventory (.comparison field op value)
        [⟨if test = .contains ∨ test = .startsWith then f.shownField?.getD f else f, test, given⟩]

namespace Connective

/-- The connectives inside a block: the second condition may hold in place of the first. -/
def within (block : List Condition) : List Connective := block.tail.map fun _ ↦ .or

/-- The connectives that join blocks of conditions: those written between the blocks, and `or`
inside them. -/
def throughout (written : List Connective) (blocks : List (List Condition)) : List Connective :=
  blocks.head?.elim [] within ++
    (written.zip blocks.tail).flatMap fun (connective, block) ↦ connective :: within block

end Connective

/-- A plan that has everything of a query in its place, and nothing else. -/
structure Plan.Follows (c : Catalog) (inventory : Inventory) (q : Query)
    (blocks : List (List Condition)) (p : Plan) : Prop where
  fields : List.Forall₂ (fun token f ↦ c.resolve? token.value = some f) q.fields p.fields
  written : List.Forall₂ (Clause.Becomes c inventory) q.clauses blocks
  conditions : p.conditions = blocks.flatten
  connectives : p.connectives = Connective.throughout (q.connectives.map (·.value)) blocks
  length_connectives : p.connectives.length = p.conditions.length - 1
  noPredicate : p.predicate? = none ↔ q.clauses = []
  predicate : ∀ predicate, p.predicate? = some predicate →
    predicate.conditions = p.conditions ∧
    ∃ first rest, p.conditions = first :: rest ∧ ∀ row, predicate.holds row =
      (p.connectives.zip rest).foldl (fun sofar (k, condition) ↦
        k.combine sofar (condition.holds row)) (first.holds row)
  nodup_lengths : p.lengths.Nodup
  lengths_read : ∀ column ∈ p.lengths, ∃ condition ∈ p.conditions, condition.column = column.name
  lengths_complete : ∀ field negated f, .bare field negated ∈ q.clauses →
    c.resolve? field.value = some f → f.nullable = false → f.kind.isTextual = true →
      (f.bare negated).condition.field = f.lengthField ∧ f.lengthColumn ∈ p.lengths

/-! ## Blocks -/

theorem Field.bare_of_isTextual {f : Field} (hnullable : f.nullable = false)
    (hkind : f.kind.isTextual = true) (negated : Bool) :
    (f.bare negated).condition.field = f.lengthField ∧
      (f.bare negated).length = some f.lengthColumn := by
  unfold bare
  rw [hnullable, if_neg Bool.false_ne_true]
  cases h : f.kind with
  | text | longText => exact ⟨rfl, rfl⟩
  | _ => simp [h, Kind.isTextual] at hkind

namespace Plan

theorem becomes_of_block {clause : Clause} {b : Block} (h : block c inventory clause = .ok b) :
    clause.Becomes c inventory b.conditions := by
  cases clause with
  | bare field negated =>
    obtain ⟨f, hresolve, -, rfl⟩ := block_bare_eq_ok_iff.1 h
    exact .bare hresolve
  | comparison field op value =>
    obtain ⟨f, hresolve, -, test, htest, given, hgiven, rfl⟩ := block_comparison_eq_ok_iff.1 h
    -- The cases are told apart by the operator here and by the test in the plan.
    by_cases hdiffers : f.kind = .reference ∧ op.value = .notEqual
    · obtain ⟨hkind, hop⟩ := hdiffers
      obtain rfl : test = .notEqual :=
        Option.some.inj (htest.symm.trans (Operator.test?_eq_notEqual_iff.2 hop))
      rw [conditions_comparison_of_reference hkind]
      exact .apart hresolve hkind hop hgiven
    · have hother : ¬(f.kind = .reference ∧ test = .notEqual) := by
        rintro ⟨hkind, rfl⟩
        exact hdiffers ⟨hkind, Operator.test?_eq_notEqual_iff.1 htest⟩
      rw [conditions_comparison_of_other given hother]
      exact .single hresolve hdiffers htest hgiven

/-- A block with a length column is about the length of a text. -/
theorem length_of_block {clause : Clause} {b : Block} (h : block c inventory clause = .ok b)
    {column : LengthColumn} (hlength : b.length = some column) :
    b.condition.column = column.name := by
  cases clause with
  | bare field negated =>
    obtain ⟨f, -, -, rfl⟩ := block_bare_eq_ok_iff.1 h
    rcases f.bare_cases negated with ⟨test, given, hbare⟩ | ⟨test, given, hbare⟩
    · simp [hbare] at hlength
    · have hcolumn : f.lengthColumn = column := by simpa [hbare] using hlength
      simp [hbare, Condition.column, ← hcolumn]
  | comparison field op value =>
    obtain ⟨f, -, -, test, -, given, -, rfl⟩ := block_comparison_eq_ok_iff.1 h
    rw [length_comparison] at hlength
    cases hlength

/-! ## The predicate -/

theorem conditions_foldl_join (sofar : Predicate) (links : List (Condition × Connective)) :
    (links.foldl (fun p (c, k) ↦ .join k p (.condition c)) sofar).conditions =
      sofar.conditions ++ links.map (·.1) := by
  induction links generalizing sofar with
  | nil => exact (List.append_nil _).symm
  | cons link rest ih =>
    rw [List.foldl_cons, ih]
    exact List.append_assoc sofar.conditions [link.1] _

/-- Where there is a connective before every condition but the first, the predicate joins all of
the conditions from left to right. -/
theorem predicate_of_length_eq {p : Plan} {first : Condition} {rest : List Condition}
    (hconditions : p.conditions = first :: rest) (hlength : p.connectives.length = rest.length) :
    ∃ predicate, p.predicate? = some predicate ∧ predicate.conditions = p.conditions ∧
      ∀ row, predicate.holds row =
        (p.connectives.zip rest).foldl (fun sofar (k, condition) ↦
          k.combine sofar (condition.holds row)) (first.holds row) := by
  unfold predicate? Predicate.ofConditions?
  rw [hconditions]
  refine ⟨_, rfl, ?_, fun row ↦ ?_⟩
  · rw [conditions_foldl_join, List.map_fst_zip (Nat.le_of_eq hlength.symm)]
    rfl
  · rw [Predicate.holds, eval_foldl_join, Connective.joined_eq_foldl, List.foldl_map]
    rfl

/-! ## The whole of a plan -/

theorem predicate?_eq_none_iff {p : Plan} : p.predicate? = none ↔ p.conditions = [] := by
  unfold predicate? Predicate.ofConditions?
  cases p.conditions with
  | nil => simp
  | cons first rest => simp

theorem forall₂_block {filter : Filter} {first : Block} {rest : List (Connective × Block)}
    (hfirst : block c inventory filter.first = .ok first)
    (hrest : List.Forall₂ (BlockOf c inventory) filter.rest rest) :
    List.Forall₂ (fun clause b ↦ block c inventory clause = .ok b)
      (filter.first :: filter.rest.map (·.2)) (first :: rest.map (·.2)) := by
  refine .cons hfirst ?_
  rw [List.forall₂_map_left_iff, List.forall₂_map_right_iff]
  exact hrest.imp fun _ _ h ↦ h.2

theorem connectives_of_blocks {written : List (Located Connective × Clause)}
    {rest : List (Connective × Block)} (h : List.Forall₂ (BlockOf c inventory) written rest) :
    written.map (·.1.value) = rest.map (·.1) := by
  induction h with
  | nil => rfl
  | cons hlink _ ih => exact congrArg₂ List.cons hlink.1.symm ih

theorem throughout_eq_blockConnectives (first : Block) (rest : List (Connective × Block)) :
    Connective.throughout (rest.map (·.1)) ((first :: rest.map (·.2)).map (·.conditions)) =
      blockConnectives first rest := by
  unfold Connective.throughout blockConnectives
  rw [List.map_cons, List.tail_cons, List.map_map, List.zip_map', List.flatMap_map]
  rfl

theorem exists_blocksOf {written : List (Located Connective × Clause)} {blocks : List Block}
    (h : List.Forall₂ (fun clause b ↦ block c inventory clause = .ok b) (written.map (·.2))
      blocks) :
    ∃ rest, List.Forall₂ (BlockOf c inventory) written rest ∧ rest.map (·.2) = blocks := by
  induction written generalizing blocks with
  | nil =>
    cases h
    exact ⟨[], .nil, rfl⟩
  | cons link written ih =>
    cases h with
    | @cons _ b _ blocks hb hrest =>
      obtain ⟨rest, hblocks, rfl⟩ := ih hrest
      exact ⟨(link.1.value, b) :: rest, .cons ⟨rfl, hb⟩ hblocks, rfl⟩

/-- A plan is put together from the fields, the conditions and the connectives of its query. -/
theorem ofQuery_eq_ok_iff {q : Query} {p : Plan} :
    ofQuery c inventory q = .ok p ↔
      ∃ shown, List.Forall₂ (fun token f ↦ c.resolve? token.value = some f) q.fields shown ∧
        ∃ blocks, List.Forall₂ (fun clause b ↦ block c inventory clause = .ok b) q.clauses blocks ∧
          p = ⟨shown, blocks.flatMap (·.conditions),
            Connective.throughout (q.connectives.map (·.value)) (blocks.map (·.conditions)),
            blockLengths blocks⟩ := by
  obtain ⟨fields, filter, span⟩ := q
  cases filter with
  | none =>
    rw [ofQuery_none_eq_ok_iff]
    simp only [Query.clauses, List.forall₂_nil_left_iff, exists_eq_left]
    rfl
  | some filter =>
    rw [ofQuery_some_eq_ok_iff]
    apply exists_congr
    intro shown
    apply and_congr_right
    intro _
    have hplan {first : Block} {rest : List (Connective × Block)}
        (hrest : List.Forall₂ (BlockOf c inventory) filter.rest rest) :
        ofBlocks shown first rest = ⟨shown, (first :: rest.map (·.2)).flatMap (·.conditions),
          Connective.throughout ((Query.connectives ⟨fields, some filter, span⟩).map (·.value))
            ((first :: rest.map (·.2)).map (·.conditions)),
          blockLengths (first :: rest.map (·.2))⟩ := by
      simp only [Query.connectives, List.map_map, Function.comp_def]
      rw [connectives_of_blocks hrest, throughout_eq_blockConnectives]
      rfl
    constructor
    · rintro ⟨first, hfirst, rest, hrest, rfl⟩
      exact ⟨_, forall₂_block hfirst hrest, hplan hrest⟩
    · rintro ⟨blocks, hblocks, rfl⟩
      cases hblocks with
      | cons hfirst hothers =>
        obtain ⟨rest, hrest, rfl⟩ := exists_blocksOf hothers
        exact ⟨_, hfirst, rest, hrest, (hplan hrest).symm⟩

theorem follows_nil {fields : List (Located String)} {shown : List Field}
    (hshown : List.Forall₂ (fun token f ↦ c.resolve? token.value = some f) fields shown)
    (span : Span) : Follows c inventory ⟨fields, none, span⟩ [] ⟨shown, [], [], []⟩ where
  fields := hshown
  written := .nil
  conditions := rfl
  connectives := rfl
  length_connectives := rfl
  noPredicate := by simp [predicate?_eq_none_iff, Query.clauses]
  predicate := by
    intro predicate hpredicate
    cases hpredicate
  nodup_lengths := List.nodup_nil
  lengths_read := by
    intro column hcolumn
    cases hcolumn
  lengths_complete := by
    intro field negated f hclause
    cases hclause

theorem follows_ofBlocks {fields : List (Located String)} {shown : List Field}
    (hshown : List.Forall₂ (fun token f ↦ c.resolve? token.value = some f) fields shown)
    {filter : Filter} {first : Block} (hfirst : block c inventory filter.first = .ok first)
    {rest : List (Connective × Block)}
    (hrest : List.Forall₂ (BlockOf c inventory) filter.rest rest) (span : Span) :
    Follows c inventory ⟨fields, some filter, span⟩
      ((first :: rest.map (·.2)).map (·.conditions)) (ofBlocks shown first rest) where
  fields := hshown
  written := List.forall₂_map_right_iff.2
    ((forall₂_block hfirst hrest).imp fun _ _ h ↦ becomes_of_block h)
  conditions := List.flatMap_def
  connectives := by
    simp only [Query.connectives, List.map_map, Function.comp_def]
    rw [connectives_of_blocks hrest, throughout_eq_blockConnectives]
    rfl
  length_connectives := by rw [length_conditions_ofBlocks, Nat.add_sub_cancel]
  noPredicate := by
    rw [predicate?_eq_none_iff]
    simp [ofBlocks, Block.conditions, Query.clauses]
  predicate := by
    intro predicate hpredicate
    have hconditions : (ofBlocks shown first rest).conditions =
        first.condition :: (ofBlocks shown first rest).conditions.tail := rfl
    have hlength : (ofBlocks shown first rest).connectives.length =
        (ofBlocks shown first rest).conditions.tail.length := by
      rw [List.length_tail, length_conditions_ofBlocks, Nat.add_sub_cancel]
    obtain ⟨same, hsame, hleaves, hholds⟩ := predicate_of_length_eq hconditions hlength
    obtain rfl : same = predicate := Option.some.inj (hsame.symm.trans hpredicate)
    exact ⟨hleaves, _, _, hconditions, hholds⟩
  nodup_lengths := by
    have hnodup := nodup_map_firstsBy id ((first :: rest.map (·.2)).filterMap (·.length))
    rw [List.map_id] at hnodup
    exact hnodup
  lengths_read := by
    intro column hcolumn
    obtain ⟨b, hb, hlength⟩ := mem_lengths_ofBlocks_iff.1 hcolumn
    obtain ⟨clause, -, hblock⟩ := exists_mem_of_forall₂ (forall₂_block hfirst hrest) hb
    exact ⟨b.condition, List.mem_flatMap.2 ⟨b, hb, List.mem_cons_self⟩,
      length_of_block hblock hlength⟩
  lengths_complete := by
    intro field negated f hclause hresolve hnullable hkind
    obtain ⟨hfield, hlength⟩ := Field.bare_of_isTextual hnullable hkind negated
    obtain ⟨b, hb, hblock⟩ := exists_mem_of_forall₂ (forall₂_block hfirst hrest).flip hclause
    obtain ⟨g, hresolve', -, rfl⟩ := block_bare_eq_ok_iff.1 hblock
    obtain rfl : f = g := Option.some.inj (hresolve.symm.trans hresolve')
    exact ⟨hfield, mem_lengths_ofBlocks_iff.2 ⟨_, hb, hlength⟩⟩

/-- The plan of a query has the structure of the query. -/
theorem ofSource_follows {source : String} {q : Query} {p : Plan}
    (hread : Query.read source = .ok q) (h : ofSource c inventory source = .ok p) :
    ∃ blocks, p.Follows c inventory q blocks := by
  have hquery := (ofSource_eq_ok_iff_of_read hread).1 h
  obtain ⟨fields, filter, span⟩ := q
  cases filter with
  | none =>
    obtain ⟨shown, hshown, rfl⟩ := ofQuery_none_eq_ok_iff.1 hquery
    exact ⟨[], follows_nil hshown span⟩
  | some filter =>
    obtain ⟨shown, hshown, first, hfirst, rest, hrest, rfl⟩ := ofQuery_some_eq_ok_iff.1 hquery
    exact ⟨_, follows_ofBlocks hshown hfirst hrest span⟩

/-- Three written conditions become four, and the two that ask for a comment share a column. -/
theorem ofSource_follows_of_comment :
    let inventory : Inventory :=
      .ofTables [("architectures", [.ofList 1 [("name", .text "x86_64")]])]
    ∃ q p blocks,
      Query.read "fqdn, arch where comment and arch != x86_64 or !comment" = .ok q ∧
      ofSource Catalog.hosts inventory "fqdn, arch where comment and arch != x86_64 or !comment" =
        .ok p ∧
      p.Follows Catalog.hosts inventory q blocks ∧
      p.conditions.length = 4 ∧ p.connectives = [.and, .or, .or] ∧ p.lengths.length = 1 := by
  intro inventory
  have hread : (Query.read
      "fqdn, arch where comment and arch != x86_64 or !comment").toOption.isSome = true := by
    decide +kernel
  have hplan : (ofSource Catalog.hosts inventory
      "fqdn, arch where comment and arch != x86_64 or !comment").toOption.map (fun p ↦
        (p.conditions.length, p.connectives, p.lengths.length)) =
      some (4, [.and, .or, .or], 1) := by
    decide +kernel
  obtain ⟨q, hread⟩ := Option.isSome_iff_exists.1 hread
  obtain ⟨p, hplan, hcounts⟩ := exists_ok_of_toOption_map hplan
  have hread := toOption_eq_some_iff.1 hread
  obtain ⟨blocks, hfollows⟩ := ofSource_follows hread hplan
  simp only [Prod.mk.injEq] at hcounts
  exact ⟨q, p, blocks, hread, hplan, hfollows, hcounts⟩

end Plan

end InventoryQuery
