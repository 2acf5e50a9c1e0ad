import InventoryQuery.Proofs.Answer.Single
import InventoryQuery.Proofs.Plan.Structure
import InventoryQuery.Proofs.Value.ReadBack

/-!
# Well-typed conditions

A test passes over a value of another sort than the one it compares with, so a condition that is not
well typed would be false of every record without a word.  Where only references are entered and
shown by names, no query becomes such a condition: operators, literals, names, the word for an open
end and fields alone each lead to a value that belongs to the kind of the field.
-/

namespace InventoryQuery

variable {c : Catalog} {inventory : Inventory} {f : Field}

/-- The values that a field of a kind is compared with. -/
def Value.BelongsTo : Kind → Value → Prop
  | .boolean, .bool _ | .text, .text _ | .longText, .text _ | .reference, .int _ | .date, .date _ =>
    True
  | .numeric, .int _ | .numeric, .float _ => True
  | .datetime, .timestamp _ | .datetime, .instant _ => True
  | _, _ => False

/-- Names stand for ids, and are shown for them, only where ids are stored. -/
def Catalog.NamesReferences (c : Catalog) : Prop :=
  ∀ f ∈ c.allFields, f.lookup.isSome = true ∨ (∃ table key, f.rendering = some (.name table key)) →
    f.kind = .reference

/-- A condition on a stored field with a test and a value that fit the kind of the field. -/
structure Condition.WellTyped (condition : Condition) : Prop where
  stored : condition.field.isComputed = false
  searched : condition.test = .contains ∨ condition.test = .startsWith →
    (∃ s, condition.given = .text s) ∨
      condition.given = .openEnd true ∧ condition.field.kind = .datetime
  asked : condition.test = .isNull → ∃ b, condition.given = .bool b
  compared : condition.test ∉ [.contains, .startsWith, .isNull] →
    condition.given.BelongsTo condition.field.kind
  bounded : condition.test = .atLeast ∨ condition.test = .atMost →
    condition.field.kind.isOrdered = true

/-- A block of well-typed conditions that a written condition on a field becomes.  Apart from
ordered kinds it asks for more or less only to tell a reference from another, and it leaves the
field for what is shown of it only to search there. -/
structure Clause.TypedBlock (clause : Clause) (f : Field) (block : List Condition) : Prop where
  wellTyped : ∀ condition ∈ block, condition.WellTyped
  ordered : ∀ condition ∈ block, condition.test = .greater ∨ condition.test = .less →
    condition.field.kind.isOrdered = true ∨
      f.kind = .reference ∧
        (∃ field op value, clause = .comparison field op value ∧ op.value = .notEqual) ∧
        ∃ id, block = [⟨f, .greater, .int id⟩, ⟨f, .less, .int id⟩]
  further : ∀ condition ∈ block, (∃ hop, condition.field.path = f.path ++ [hop]) →
    condition.test = .contains ∨ condition.test = .startsWith

/-! ## Literals -/

namespace Value

theorem belongsTo_of_readNumber {s : String} {v : Value} (h : readNumber s = some v) :
    v.BelongsTo .numeric := by
  rcases exists_of_readNumber h with ⟨i, rfl⟩ | ⟨x, rfl⟩
  · trivial
  · trivial

theorem IsMoment.belongsTo {v : Value} (h : v.IsMoment) : v.BelongsTo .datetime := by
  cases v with
  | timestamp t | instant t => trivial
  | _ => exact h.elim

theorem eq_some_of_elim_eq_ok {o : Option Value} {fault : LiteralFault} {v : Value}
    (h : o.elim (.error fault) .ok = (.ok v : Except LiteralFault Value)) : o = some v := by
  cases o with
  | none => cases h
  | some given => exact congrArg some (Except.ok.inj h)

/-- A literal of a kind stands for a value of the kind. -/
theorem belongsTo_of_ofLiteral {kind : Kind} {s : String} {v : Value}
    (h : ofLiteral kind s = .ok v) : v.BelongsTo kind := by
  unfold ofLiteral at h
  cases kind with
  | text | longText =>
    obtain rfl : .text s = v := Except.ok.inj h
    trivial
  | boolean =>
    obtain ⟨b, -, rfl⟩ := Option.map_eq_some_iff.1 (eq_some_of_elim_eq_ok h)
    trivial
  | numeric => exact belongsTo_of_readNumber (eq_some_of_elim_eq_ok h)
  | reference =>
    obtain ⟨i, -, rfl⟩ := Option.map_eq_some_iff.1 (eq_some_of_elim_eq_ok h)
    trivial
  | date =>
    obtain ⟨d, -, rfl⟩ := Option.map_eq_some_iff.1 (eq_some_of_elim_eq_ok h)
    trivial
  | datetime => exact (isMoment_of_readMoment (eq_some_of_elim_eq_ok h)).belongsTo

theorem BelongsTo.exists_int {v : Value} (h : v.BelongsTo .reference) : ∃ id, v = .int id := by
  cases v with
  | int id => exact ⟨id, rfl⟩
  | _ => exact h.elim

end Value

theorem NameLookup.exists_int_of_value {lookup : NameLookup} {token text : String} {v : Value}
    (h : lookup.value inventory token text = .ok v) : ∃ id, v = .int id := by
  unfold value at h
  split at h
  · next id _ => exact ⟨id, (Except.ok.inj h).symm⟩
  · cases h

namespace Field

variable {test : Test} {text : String} {given : Value}

/-- What is given belongs to the kind of the field, or is the id that a name stands for. -/
theorem Given.belongsTo_or_int (h : f.Given inventory test text given)
    (htest : ¬(test = .contains ∨ test = .startsWith)) :
    given.BelongsTo f.kind ∨ f.lookup.isSome = true ∧ ∃ id, given = .int id := by
  unfold Given at h
  by_cases hword : f.TakesForOpenEnd text
  · rw [if_pos hword] at h
    left
    rw [h, hword.1, Value.openEnd]
    split
    · trivial
    · trivial
  · rw [if_neg hword, if_neg htest] at h
    cases hlookup : f.lookup with
    | some lookup =>
      rw [hlookup] at h
      exact .inr ⟨rfl, NameLookup.exists_int_of_value h⟩
    | none =>
      rw [hlookup] at h
      exact .inl (Value.belongsTo_of_ofLiteral h)

/-- A search is for a text, unless that is the word for an open end. -/
theorem Given.searched (h : f.Given inventory test text given)
    (htest : test = .contains ∨ test = .startsWith) :
    given = .text text ∨ given = .openEnd true ∧ f.kind = .datetime := by
  unfold Given at h
  by_cases hword : f.TakesForOpenEnd text
  · have hzoned : (test != .exact) = true := by
      rcases htest with rfl | rfl
      · decide
      · decide
    rw [if_pos hword, hzoned] at h
    exact .inr ⟨h, hword.1⟩
  · rw [if_neg hword, if_pos htest] at h
    exact .inl h

end Field

/-! ## Operators -/

namespace Operator

variable {op : Operator} {kind : Kind} {test : Test}

/-- The tests for more and less are made only where the kind has an order. -/
theorem isOrdered_of_test? (h : op.test? kind = some test)
    (htest : test ∈ [.greater, .less, .atLeast, .atMost]) : kind.isOrdered = true := by
  by_contra hkind
  cases op with
  | greater | less | atLeast | atMost => simp [test?, hkind] at h
  | equal | same =>
    have hequal : Operator.equal.test? kind = some test := h
    rcases Value.equal_or_exact_of_test? hequal with rfl | rfl
    · simp at htest
    · simp at htest
  | contains | startsWith | notEqual =>
    obtain rfl := Option.some.inj h
    simp at htest

theorem test?_ne_isNull (op : Operator) (kind : Kind) : op.test? kind ≠ some .isNull := by
  cases op with
  | greater | less | atLeast | atMost => simp [test?]
  | equal | same => cases kind <;> simp [test?]
  | contains | startsWith | notEqual => simp [test?]

end Operator

/-! ## Blocks -/

/-- A comparison with a value of the kind. -/
theorem Condition.WellTyped.of_belongsTo {test : Test} {given : Value}
    (hstored : f.isComputed = false) (htest : test ∉ [.contains, .startsWith, .isNull])
    (hgiven : given.BelongsTo f.kind)
    (hbounded : test = .atLeast ∨ test = .atMost → f.kind.isOrdered = true) :
    WellTyped ⟨f, test, given⟩ where
  stored := hstored
  searched := by
    intro hsearch
    rcases hsearch with rfl | rfl
    · simp at htest
    · simp at htest
  asked := by
    rintro rfl
    simp at htest
  compared := fun _ ↦ hgiven
  bounded := hbounded

/-- A search for a text, or for the open end. -/
theorem Condition.WellTyped.of_search {test : Test} {given : Value}
    (hstored : f.isComputed = false) (htest : test = .contains ∨ test = .startsWith)
    (hgiven : (∃ s, given = .text s) ∨ given = .openEnd true ∧ f.kind = .datetime) :
    WellTyped ⟨f, test, given⟩ where
  stored := hstored
  searched := fun _ ↦ hgiven
  asked := by
    rintro rfl
    simp at htest
  compared := by
    intro hother
    rcases htest with rfl | rfl
    · simp at hother
    · simp at hother
  bounded := by
    rintro (rfl | rfl)
    · simp at htest
    · simp at htest

namespace Field

/-- A field alone is asked for by a null test, as a flag, or by a number of characters. -/
theorem condition_bare_cases (f : Field) (negated : Bool) :
    (f.bare negated).condition = ⟨f, .isNull, .bool negated⟩ ∨
      f.kind = .boolean ∧ (f.bare negated).condition = ⟨f, .exact, .bool !negated⟩ ∨
      ∃ test ∈ [.exact, .greater], (f.bare negated).condition = ⟨f.lengthField, test, .int 0⟩ := by
  unfold bare presence
  split
  · exact .inl rfl
  · cases hkind : f.kind with
    | boolean => exact .inr (.inl ⟨rfl, rfl⟩)
    | text | longText =>
      refine .inr (.inr ⟨_, ?_, rfl⟩)
      cases negated with
      | false => simp
      | true => simp
    | reference | date | datetime | numeric => exact .inl rfl

theorem bare_wellTyped (hstored : f.isComputed = false) (negated : Bool) :
    (f.bare negated).condition.WellTyped := by
  rcases f.condition_bare_cases negated with hform | ⟨hkind, hform⟩ | ⟨test, htest, hform⟩
  · rw [hform]
    exact ⟨hstored, by simp, fun _ ↦ ⟨negated, rfl⟩, by simp, by simp⟩
  · have hgiven : (Value.bool !negated).BelongsTo f.kind := by
      rw [hkind]
      trivial
    rw [hform]
    exact .of_belongsTo hstored (by simp) hgiven (by simp)
  · rw [hform]
    refine .of_belongsTo rfl ?_ trivial fun _ ↦ rfl
    intro hother
    simp only [List.mem_cons, List.not_mem_nil, or_false] at htest hother
    rcases htest with rfl | rfl
    · simp at hother
    · simp at hother

end Field

namespace Plan

theorem typedBlock_bare (hstored : f.isComputed = false) (field : Located String)
    (negated : Bool) :
    (Clause.bare field negated).TypedBlock f [(f.bare negated).condition] where
  wellTyped := List.forall_mem_singleton.2 (f.bare_wellTyped hstored negated)
  ordered := by
    refine List.forall_mem_singleton.2 ?_
    intro htest
    rcases f.condition_bare_cases negated with hform | ⟨-, hform⟩ | ⟨test, -, hform⟩
    · simp [hform] at htest
    · simp [hform] at htest
    · rw [hform]
      exact .inl rfl
  further := by
    refine List.forall_mem_singleton.2 ?_
    rintro ⟨hop, hpath⟩
    -- The field itself and the length of its text are no hop further on.
    rcases f.condition_bare_cases negated with hform | ⟨-, hform⟩ | ⟨test, -, hform⟩
    · simp [hform] at hpath
    · simp [hform] at hpath
    · simp [hform, Field.lengthField, Field.stored] at hpath

/-- The two halves of a difference between references. -/
theorem typedBlock_apart (hstored : f.isComputed = false) (hkind : f.kind = .reference)
    {field value : Located String} {op : Located Operator} (hop : op.value = .notEqual)
    (id : Int64) :
    (Clause.comparison field op value).TypedBlock f
      [⟨f, .greater, .int id⟩, ⟨f, .less, .int id⟩] where
  wellTyped := by
    have hgiven : (Value.int id).BelongsTo f.kind := by
      rw [hkind]
      trivial
    intro condition hmem
    simp only [List.mem_cons, List.not_mem_nil, or_false] at hmem
    rcases hmem with rfl | rfl
    · exact .of_belongsTo hstored (by simp) hgiven (by simp)
    · exact .of_belongsTo hstored (by simp) hgiven (by simp)
  ordered := fun _ _ _ ↦ .inr ⟨hkind, ⟨field, op, value, rfl, hop⟩, id, rfl⟩
  further := by
    rintro condition hmem ⟨hop, hpath⟩
    simp only [List.mem_cons, List.not_mem_nil, or_false] at hmem
    rcases hmem with rfl | rfl
    · simp at hpath
    · simp at hpath

/-- What is shown for a field is a text, or it is the field itself. -/
theorem kind_of_shownField? (hc : c.NamesReferences) (hf : f ∈ c.allFields) :
    f.shownField?.getD f = f ∨
      f.kind = .reference ∧ ∃ g, f.shownField?.getD f = g ∧ g.kind = .text ∧
        g.isComputed = false := by
  cases hshown : f.shownField? with
  | none => exact .inl rfl
  | some g =>
    have hcomputed := Field.isComputed_of_mem_shownField? hshown
    unfold Field.shownField? at hshown
    split at hshown
    · next table key _ hrendering =>
      obtain rfl := Option.some.inj hshown
      exact .inr ⟨hc f hf (.inr ⟨table, key, hrendering⟩), _, rfl, rfl, hcomputed⟩
    · cases hshown

/-- A search in what is shown for the field. -/
theorem typedBlock_searched (hc : c.NamesReferences) (hf : f ∈ c.allFields)
    (hstored : f.isComputed = false) (clause : Clause) {test : Test} {text : String} {given : Value}
    (htest : test = .contains ∨ test = .startsWith) (hgiven : f.Given inventory test text given) :
    clause.TypedBlock f [⟨f.shownField?.getD f, test, given⟩] where
  wellTyped := by
    refine List.forall_mem_singleton.2 (.of_search ?_ htest ?_)
    · rcases kind_of_shownField? hc hf with hsame | ⟨-, g, hshown, -, hcomputed⟩
      · rwa [hsame]
      · rwa [hshown]
    · -- The word for an open end is searched for in a point in time, which is shown as it is.
      rcases hgiven.searched htest with rfl | ⟨rfl, hdatetime⟩
      · exact .inl ⟨text, rfl⟩
      · rcases kind_of_shownField? hc hf with hsame | ⟨hkind, -⟩
        · exact .inr ⟨rfl, by rw [hsame, hdatetime]⟩
        · simp [hdatetime] at hkind
  ordered := by
    refine List.forall_mem_singleton.2 fun hother ↦ ?_
    rcases htest with rfl | rfl
    · simp at hother
    · simp at hother
  further := List.forall_mem_singleton.2 fun _ ↦ htest

/-- A comparison of the field itself. -/
theorem typedBlock_compared (hc : c.NamesReferences) (hf : f ∈ c.allFields)
    (hstored : f.isComputed = false) (clause : Clause) {op : Operator} {test : Test}
    {text : String} {given : Value} (htest : op.test? f.kind = some test)
    (htext : ¬(test = .contains ∨ test = .startsWith))
    (hgiven : f.Given inventory test text given) :
    clause.TypedBlock f [⟨f, test, given⟩] where
  wellTyped := by
    have hother : test ∉ [.contains, .startsWith, .isNull] := by
      have hnull : test ≠ .isNull := by
        rintro rfl
        exact op.test?_ne_isNull f.kind htest
      simpa [hnull] using htext
    have hbelongs : given.BelongsTo f.kind := by
      rcases hgiven.belongsTo_or_int htext with hbelongs | ⟨hlookup, id, rfl⟩
      · exact hbelongs
      · rw [hc f hf (.inl hlookup)]
        trivial
    refine List.forall_mem_singleton.2 (.of_belongsTo hstored hother hbelongs fun hbound ↦ ?_)
    exact Operator.isOrdered_of_test? htest (by grind)
  ordered := by
    refine List.forall_mem_singleton.2 fun hmore ↦ .inl ?_
    exact Operator.isOrdered_of_test? htest (by grind)
  further := by
    refine List.forall_mem_singleton.2 ?_
    rintro ⟨hop, hpath⟩
    simp at hpath

/-- The block of a written condition is well typed. -/
theorem typedBlock_of_block (hc : c.NamesReferences) {clause : Clause} {b : Block}
    (h : block c inventory clause = .ok b) :
    ∃ f, c.resolve? clause.field.value = some f ∧ clause.TypedBlock f b.conditions := by
  cases clause with
  | bare field negated =>
    obtain ⟨f, hresolve, hstored, rfl⟩ := block_bare_eq_ok_iff.1 h
    exact ⟨f, hresolve, typedBlock_bare hstored field negated⟩
  | comparison field op value =>
    obtain ⟨f, hresolve, hstored, test, htest, given, hgiven, rfl⟩ := block_comparison_eq_ok_iff.1 h
    have hf := Catalog.mem_allFields_of_resolve? hresolve
    have hgiven := givenValue_eq_ok_iff.1 hgiven
    refine ⟨f, hresolve, ?_⟩
    by_cases hdiffers : f.kind = .reference ∧ test = .notEqual
    · obtain ⟨hkind, rfl⟩ := hdiffers
      have hbelongs : given.BelongsTo .reference := by
        rcases hgiven.belongsTo_or_int (by decide) with hbelongs | ⟨-, id, rfl⟩
        · rwa [hkind] at hbelongs
        · trivial
      obtain ⟨id, rfl⟩ := hbelongs.exists_int
      rw [conditions_comparison_of_reference hkind]
      exact typedBlock_apart hstored hkind (Operator.test?_eq_notEqual_iff.1 htest) id
    · rw [conditions_comparison_of_other given hdiffers]
      by_cases htext : test = .contains ∨ test = .startsWith
      · rw [if_pos htext]
        exact typedBlock_searched hc hf hstored _ htext hgiven
      · rw [if_neg htext]
        exact typedBlock_compared hc hf hstored _ htest htext hgiven

/-- Every condition of a plan is well typed.  The conditions stand in blocks, one for each written
condition, which differ from it only in the ways of `Clause.TypedBlock`. -/
theorem ofSource_wellTyped (hc : c.NamesReferences) {source : String} {p : Plan}
    (h : ofSource c inventory source = .ok p) :
    ∃ q blocks, Query.read source = .ok q ∧ p.conditions = blocks.flatten ∧
      List.Forall₂ (fun clause block ↦ ∃ f, c.resolve? clause.field.value = some f ∧
        clause.TypedBlock f block) q.clauses blocks := by
  obtain ⟨q, hread, hquery⟩ := bind_eq_ok_iff.1 h
  obtain ⟨shown, -, blocks, hblocks, rfl⟩ := ofQuery_eq_ok_iff.1 (mapError_eq_ok_iff.1 hquery)
  refine ⟨q, blocks.map (·.conditions), mapError_eq_ok_iff.1 hread, List.flatMap_def, ?_⟩
  exact List.forall₂_map_right_iff.2 (hblocks.imp fun _ _ hblock ↦ typedBlock_of_block hc hblock)

end Plan

/-! ## Hosts -/

theorem Catalog.namesReferences_hosts : hosts.NamesReferences := by
  have hall : ∀ f ∈ Hosts.fields ++ Hosts.aliases ++ Hosts.computed,
      f.kind = .reference ∨ f.lookup = none ∧
        (f.rendering = none ∨ f.rendering = some .openEnd) := by decide
  intro f hf hnamed
  have hwritten : f ∈ Hosts.fields ++ Hosts.aliases ++ Hosts.computed := by
    simp only [allFields, List.mem_append] at hf ⊢
    exact hf.imp (Or.imp FieldTable.mem_of_mem_ofList FieldTable.mem_of_mem_ofList)
      FieldTable.mem_of_mem_ofList
  rcases hall f hwritten with hkind | ⟨hlookup, hrendering⟩
  · exact hkind
  · rcases hnamed with hsome | ⟨table, key, hname⟩
    · simp [hlookup] at hsome
    · simp [hname] at hrendering

/-- A difference of references, a search for an open end, a text alone and a bound. -/
theorem Plan.ofSource_wellTyped_of_arch :
    let source :=
      "id where arch != x86_64 or reserved_until =~ INFINITE or comment or cpu_cores >= 4"
    Catalog.hosts.NamesReferences ∧
    ∃ p, ofSource Catalog.hosts Catalog.Hosts.architectures source = .ok p ∧
      p.conditions.map (·.test) = [.greater, .less, .contains, .greater, .atLeast] ∧
      ∀ condition ∈ p.conditions, condition.WellTyped := by
  intro source
  have hplan : (ofSource Catalog.hosts Catalog.Hosts.architectures source).toOption.map
      (·.conditions.map (·.test)) =
        some [.greater, .less, .contains, .greater, .atLeast] := by decide +kernel
  obtain ⟨p, hp, htests⟩ := exists_ok_of_toOption_map hplan
  obtain ⟨q, blocks, -, hconditions, hblocks⟩ :=
    ofSource_wellTyped Catalog.namesReferences_hosts hp
  refine ⟨Catalog.namesReferences_hosts, p, hp, htests, fun condition hmem ↦ ?_⟩
  rw [hconditions] at hmem
  obtain ⟨block, hblock, hcondition⟩ := List.mem_flatten.1 hmem
  obtain ⟨clause, -, f, -, htyped⟩ := exists_mem_of_forall₂ hblocks hblock
  exact htyped.wellTyped condition hcondition

end InventoryQuery
