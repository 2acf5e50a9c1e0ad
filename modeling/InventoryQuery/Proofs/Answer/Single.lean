import InventoryQuery.Proofs.Answer.Run
import InventoryQuery.Proofs.Catalog.Hosts
import InventoryQuery.Proofs.Plan.Joined

/-!
# Asking for one thing

A query with one condition has a plan of one block.  A record is selected when what the block is
about, read of that record alone, passes one of its tests.
-/

namespace InventoryQuery

variable {c : Catalog} {inventory : Inventory} {record : Record} {f : Field}

/-- The text asks for fields of the catalog and for nothing else. -/
def Catalog.Lists (c : Catalog) (shown : String) : Prop :=
  ∃ fields span, Query.read shown = .ok ⟨fields, none, span⟩ ∧
    ∀ field ∈ fields, (c.resolve? field.value).isSome = true

theorem Catalog.lists_fqdn : hosts.Lists "fqdn" :=
  ⟨[⟨"fqdn", 0, 4⟩], ⟨0, 4⟩, by decide +kernel, by decide +kernel⟩

/-- The text asks for exactly these fields. -/
def Catalog.Shows (c : Catalog) (shown : String) (fields : List Field) : Prop :=
  ∃ tokens span, Query.read shown = .ok ⟨tokens, none, span⟩ ∧
    List.Forall₂ (fun token f ↦ c.resolve? token.value = some f) tokens fields

/-! ## What a literal stands for -/

/-- A text is the word for an open end where a field can have one. -/
def Field.TakesForOpenEnd (f : Field) (text : String) : Prop :=
  f.kind = .datetime ∧ Text.equalIgnoringAsciiCase text openEndWord = true

instance {text : String} : Decidable (f.TakesForOpenEnd text) := inferInstanceAs (Decidable (_ ∧ _))

/-- The value that a text stands for in a test of a field, wherever it is written. -/
def Field.Given (inventory : Inventory) (f : Field) (test : Test) (text : String) (given : Value) :
    Prop :=
  if f.TakesForOpenEnd text then given = .openEnd (test != .exact)
  else if test = .contains ∨ test = .startsWith then given = .text text
  else
    match f.lookup with
    | some lookup => lookup.value inventory f.token text = .ok given
    | none => Value.ofLiteral f.kind text = .ok given

namespace Plan

theorem givenValue_eq_ok_iff {test : Test} {literal : Located String} {given : Value} :
    givenValue inventory f test literal = .ok given ↔
      f.Given inventory test literal.value given := by
  have hword : (f.kind = .datetime && Text.equalIgnoringAsciiCase literal.value openEndWord) =
      true ↔ f.TakesForOpenEnd literal.value := by
    simp [Field.TakesForOpenEnd]
  unfold givenValue Field.Given
  simp only [hword, Bool.or_eq_true, decide_eq_true_eq]
  split
  · simp only [Except.ok.injEq, eq_comm]
  · split
    · simp only [Except.ok.injEq, eq_comm]
    · cases f.lookup with
      | some lookup => exact mapError_eq_ok_iff
      | none => exact mapError_eq_ok_iff

/-! ## Plans of one block -/

theorem exists_forall₂_resolve {fields : List (Located String)}
    (h : ∀ field ∈ fields, (c.resolve? field.value).isSome = true) :
    ∃ shown, List.Forall₂ (fun token f ↦ c.resolve? token.value = some f) fields shown :=
  exists_forall₂_of_isSome h

theorem ofQuery_single_eq_ok_iff {fields : List (Located String)} {shown : List Field}
    (hshown : List.Forall₂ (fun token f ↦ c.resolve? token.value = some f) fields shown)
    {clause : Clause} {span : Span} {p : Plan} :
    ofQuery c inventory ⟨fields, some ⟨clause, []⟩, span⟩ = .ok p ↔
      ∃ b, block c inventory clause = .ok b ∧ p = ofBlocks shown b [] := by
  rw [ofQuery_some_eq_ok_iff]
  constructor
  · rintro ⟨shown', hshown', b, hb, rest, hrest, rfl⟩
    obtain rfl : rest = [] := by simpa using hrest
    have hunique : Relator.RightUnique fun (token : Located String) f ↦
        c.resolve? token.value = some f := fun _ _ _ h h' ↦ Option.some.inj (h.symm.trans h')
    obtain rfl : shown' = shown := hunique.forall₂ hshown' hshown
    exact ⟨b, hb, rfl⟩
  · rintro ⟨b, hb, rfl⟩
    exact ⟨shown, hshown, b, hb, [], .nil, rfl⟩

/-- A plan of one block selects the records that one of its conditions is true of. -/
theorem Fits.selects_single {fields : List Field} {b : Block} (hp : (ofBlocks fields b []).Fits c)
    (hc : c.Coherent) :
    (ofBlocks fields b []).selects inventory record =
      b.conditions.any ((ofBlocks fields b []).judges inventory record) := by
  have hany : ∀ judge : Condition → Bool,
      b.conditions.any judge = (judge b.condition || b.alternative.any judge) := by
    intro judge
    rw [Block.conditions, List.any_cons]
    cases b.alternative with
    | none => rfl
    | some condition => simp
  rw [hp.selects_eq_accepts hc, accepts, truth_ofBlocks_nil, hany]

/-- A condition on a compared field is about what the field reads. -/
theorem Fits.judges_compared {p : Plan} (hp : p.Fits c) (hc : c.Coherent) {condition : Condition}
    (h : condition.field ∈ c.comparedFields) :
    p.judges inventory record condition =
      (condition.field.read inventory record).passes condition.test condition.given := by
  rw [judges, reading, hp.measured?_eq_none hc h]

theorem judges_lengthField (fields : List Field) (f : Field) (test : Test) (given : Value) :
    (ofBlocks fields ⟨⟨f.lengthField, test, given⟩, none, some f.lengthColumn⟩ []).judges
        inventory record ⟨f.lengthField, test, given⟩ =
      (f.read inventory record).charLength.passes test given := by
  have hmeasured : (ofBlocks fields ⟨⟨f.lengthField, test, given⟩, none, some f.lengthColumn⟩
      []).measured? f.lengthField = some f := by
    simp [measured?, ofBlocks, blockLengths, firstsBy, firstsAfter, Field.lengthColumn]
  rw [judges, reading, hmeasured]

end Plan

/-! ## The two forms of a condition -/

section Forms

variable {shown : String}

theorem Catalog.Lists.exists_shows (h : c.Lists shown) : ∃ fields, c.Shows shown fields := by
  obtain ⟨tokens, span, hread, htokens⟩ := h
  obtain ⟨fields, hfields⟩ := Plan.exists_forall₂_resolve htokens
  exact ⟨fields, tokens, span, hread, hfields⟩

/-- What a field alone becomes after a list of fields. -/
theorem Catalog.Lists.exists_ofSource_bare (h : c.Lists shown) (hf : c.Offers f)
    (inventory : Inventory) (negated : Bool) :
    ∃ fields, Plan.ofSource c inventory
        (shown ++ " where " ++ ((if negated then "!" else "") ++ f.token)) =
      .ok (.ofBlocks fields ⟨(f.bare negated).condition, none, (f.bare negated).length⟩ []) := by
  obtain ⟨fields, tokens, span, hread, hshown⟩ := h.exists_shows
  obtain ⟨place, span', hread'⟩ := Query.read_where_bare hread hf.isName negated
  refine ⟨fields, (Plan.ofSource_eq_ok_iff_of_read hread').2 ?_⟩
  exact (Plan.ofQuery_single_eq_ok_iff hshown).2
    ⟨_, Plan.block_bare_eq_ok_iff.2 ⟨f, hf.resolves, hf.stored, rfl⟩, rfl⟩

/-- What a comparison becomes after the fields that are shown. -/
theorem Catalog.Shows.ofSource_comparison_eq_ok_iff {fields : List Field}
    (h : c.Shows shown fields) (hf : c.Offers f) {op : Operator} {literal value : String}
    (hliteral : Query.Literal literal value) {p : Plan} :
    Plan.ofSource c inventory
        (shown ++ " where " ++ (f.token ++ " " ++ op.symbol ++ " " ++ literal)) = .ok p ↔
      ∃ test given, op.test? f.kind = some test ∧ f.Given inventory test value given ∧
        p = .ofBlocks fields (Plan.comparison f test given) [] := by
  obtain ⟨tokens, span, hread, hshown⟩ := h
  obtain ⟨place, place', place'', span', hread'⟩ :=
    Query.read_where_comparison hread hf.isName op hliteral
  rw [Plan.ofSource_eq_ok_iff_of_read hread', Plan.ofQuery_single_eq_ok_iff hshown]
  simp only [Plan.block_comparison_eq_ok_iff, Plan.givenValue_eq_ok_iff]
  constructor
  · rintro ⟨b, ⟨g, hg, -, test, htest, given, hgiven, rfl⟩, rfl⟩
    obtain rfl : g = f := Option.some.inj (hg.symm.trans hf.resolves)
    exact ⟨test, given, htest, hgiven, rfl⟩
  · rintro ⟨test, given, htest, hgiven, rfl⟩
    exact ⟨_, ⟨f, hf.resolves, hf.stored, test, htest, given, hgiven, rfl⟩, rfl⟩

theorem Catalog.Lists.ofSource_comparison_eq_ok_iff (h : c.Lists shown) (hf : c.Offers f)
    (inventory : Inventory) (op : Operator) {literal value : String}
    (hliteral : Query.Literal literal value) :
    ∃ fields, ∀ p, Plan.ofSource c inventory
        (shown ++ " where " ++ (f.token ++ " " ++ op.symbol ++ " " ++ literal)) = .ok p ↔
      ∃ test given, op.test? f.kind = some test ∧ f.Given inventory test value given ∧
        p = .ofBlocks fields (Plan.comparison f test given) [] := by
  obtain ⟨fields, hshows⟩ := h.exists_shows
  exact ⟨fields, fun p ↦ hshows.ofSource_comparison_eq_ok_iff hf hliteral⟩

end Forms

/-- The value that a field alone is tested by: what it reads, or the length of that. -/
def Field.bareValue (inventory : Inventory) (record : Record) (f : Field) (negated : Bool) :
    Value :=
  (f.bare negated).length.elim (f.read inventory record)
    fun _ ↦ (f.read inventory record).charLength

namespace Plan

/-- A comparison selects a record when one of its conditions is true of what its field reads. -/
theorem Fits.selects_comparison {fields : List Field} {test : Test} {given : Value}
    (hp : (ofBlocks fields (comparison f test given) []).Fits c) (hc : c.Coherent)
    (hf : f ∈ c.storedFields) :
    (ofBlocks fields (comparison f test given) []).selects inventory record =
      (comparison f test given).conditions.any fun condition ↦
        (condition.field.read inventory record).passes condition.test condition.given := by
  rw [hp.selects_single hc, Bool.eq_iff_iff, List.any_eq_true, List.any_eq_true]
  apply exists_congr
  intro condition
  apply and_congr_right
  intro hmem
  rw [hp.judges_compared hc (comparison_fits hf test given condition hmem)]

/-- Most comparisons are one condition. -/
theorem Fits.selects_comparison_of_other {fields : List Field} {test : Test} {given : Value}
    (hp : (ofBlocks fields (comparison f test given) []).Fits c) (hc : c.Coherent)
    (hf : f ∈ c.storedFields) (hother : ¬(f.kind = .reference ∧ test = .notEqual)) :
    (ofBlocks fields (comparison f test given) []).selects inventory record =
      ((if test = .contains ∨ test = .startsWith then f.shownField?.getD f else f).read inventory
        record).passes test given := by
  rw [hp.selects_comparison hc hf, conditions_comparison_of_other given hother, List.any_cons,
    List.any_nil, Bool.or_false]

/-- A reference differs from an id when it is greater or less. -/
theorem Fits.selects_comparison_of_reference {fields : List Field} {given : Value}
    (hp : (ofBlocks fields (comparison f .notEqual given) []).Fits c) (hc : c.Coherent)
    (hf : f ∈ c.storedFields) (hkind : f.kind = .reference) :
    (ofBlocks fields (comparison f .notEqual given) []).selects inventory record =
      ((f.read inventory record).passes .greater given ||
        (f.read inventory record).passes .less given) := by
  rw [hp.selects_comparison hc hf, conditions_comparison_of_reference hkind, List.any_cons,
    List.any_cons, List.any_nil, Bool.or_false]

theorem Fits.selects_bare {fields : List Field} {negated : Bool}
    (hp : (ofBlocks fields ⟨(f.bare negated).condition, none, (f.bare negated).length⟩ []).Fits c)
    (hc : c.Coherent) (hf : f ∈ c.storedFields) :
    (ofBlocks fields ⟨(f.bare negated).condition, none, (f.bare negated).length⟩ []).selects
        inventory record =
      (f.bareValue inventory record negated).passes
        (f.bare negated).condition.test (f.bare negated).condition.given := by
  rw [hp.selects_single hc, Block.conditions, Option.toList_none, List.any_cons, List.any_nil,
    Bool.or_false]
  unfold Field.bareValue
  rcases f.bare_cases negated with ⟨test, given, hbare⟩ | ⟨test, given, hbare⟩
  · rw [hbare] at hp ⊢
    exact hp.judges_compared hc (Catalog.mem_comparedFields hf)
  · rw [hbare]
    exact judges_lengthField fields f test given

end Plan

end InventoryQuery
