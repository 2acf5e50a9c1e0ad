import InventoryQuery.Proofs.Answer.Judgement
import InventoryQuery.Proofs.Plan.Typed

/-!
# Equal, less and more

The operators of ordered fields fit together.  Each of them becomes a test of its own, and the word
for an open end another value than under equality, but all of them ask where what a record stores
stands to one value.
-/

namespace InventoryQuery

variable {c : Catalog} {inventory : Inventory} {record : Record} {f : Field}

/-! ## Operators that ask for a place -/

namespace Operator

/-- The orderings of a stored value to a given one that an operator accepts, if it asks for
these. -/
def accepts? : Operator → Option (Ordering → Bool)
  | .equal | .same => some Ordering.isEq
  | .greater => some Ordering.isGT
  | .less => some Ordering.isLT
  | .atLeast => some Ordering.isGE
  | .atMost => some Ordering.isLE
  | .contains | .startsWith | .notEqual => none

/-- Of less, equal and more at most one is true, and one is exactly if there is an order at all;
the other operators are made of these. -/
structure FitTogether (answers : Operator → Bool) (comparable : Prop) : Prop where
  same : answers .same = answers .equal
  atLeast : answers .atLeast = (answers .greater || answers .equal)
  atMost : answers .atMost = (answers .less || answers .equal)
  apart : [answers .less, answers .equal, answers .greater].count true ≤ 1
  one : [answers .less, answers .equal, answers .greater].count true = 1 ↔ comparable

theorem fitTogether_of_accepts {answers : Operator → Bool} {order : Option Ordering}
    (h : ∀ op accepts, op.accepts? = some accepts → answers op = order.any accepts) :
    FitTogether answers (order.isSome = true) := by
  have hequal := h .equal _ rfl
  have hless := h .less _ rfl
  have hgreater := h .greater _ rfl
  refine ⟨?_, ?_, ?_, ?_, ?_⟩
  · rw [h .same _ rfl, hequal]
  · rw [h .atLeast _ rfl, hgreater, hequal]
    rcases order with _ | _ | _ | _ <;> rfl
  · rw [h .atMost _ rfl, hless, hequal]
    rcases order with _ | _ | _ | _ <;> rfl
  · rw [hless, hequal, hgreater]
    rcases order with _ | _ | _ | _ <;> decide
  · rw [hless, hequal, hgreater]
    rcases order with _ | _ | _ | _ <;> decide

/-- Where there is an order, such an operator has a test of its own. -/
theorem exists_test? {op : Operator} {accepts : Ordering → Bool}
    (haccepts : op.accepts? = some accepts) {kind : Kind} (hkind : kind.isOrdered = true) :
    ∃ test, op.test? kind = some test ∧ ¬(test = .contains ∨ test = .startsWith) ∧
      test ≠ .notEqual := by
  cases op with
  | equal | same =>
    cases kind with
    | datetime | reference => exact ⟨.exact, rfl, by decide, by decide⟩
    | _ => exact ⟨.equal, rfl, by decide, by decide⟩
  | greater => exact ⟨.greater, if_pos hkind, by decide, by decide⟩
  | less => exact ⟨.less, if_pos hkind, by decide, by decide⟩
  | atLeast => exact ⟨.atLeast, if_pos hkind, by decide, by decide⟩
  | atMost => exact ⟨.atMost, if_pos hkind, by decide, by decide⟩
  | contains | startsWith | notEqual => cases haccepts

end Operator

/-! ## Values that have an order -/

namespace Value

variable {v given : Value}

/-- Values that are neither null nor texts. -/
def HasPlace (v : Value) : Prop := v ≠ .null ∧ v.asText? = none

theorem BelongsTo.hasPlace {kind : Kind} (h : given.BelongsTo kind)
    (hkind : kind.isOrdered = true) : given.HasPlace := by
  cases given with
  | null => cases kind <;> exact h.elim
  | text s =>
    cases kind with
    | text | longText => cases hkind
    | _ => exact h.elim
  | _ => exact ⟨nofun, rfl⟩

/-- With such a value every test of the kind is a question about the order. -/
theorem passes_of_accepts? {op : Operator} {kind : Kind} {test : Test}
    (htest : op.test? kind = some test) {accepts : Ordering → Bool}
    (haccepts : op.accepts? = some accepts) (hgiven : given.HasPlace) :
    v.passes test given = (v.compare given).any accepts := by
  have hordered : ∀ accepts : Ordering → Bool,
      (!v.isNull && v.orderTest accepts given) = (v.compare given).any accepts := by
    intro accepts
    unfold orderTest
    cases hnull : v.isNull with
    | true => simp [isNull_iff.1 hnull, compare_null hgiven.1]
    | false => simp
  cases op with
  | equal | same =>
    cases haccepts
    have hequal : Operator.equal.test? kind = some test := htest
    rcases equal_or_exact_of_test? hequal with rfl | rfl
    · calc
        v.passes .equal given = v.passes .exact given :=
          (passes_exact_of_not_text v hgiven.2).symm
        _ = (v.compare given).any Ordering.isEq := hordered _
    · exact hordered _
  | greater | less | atLeast | atMost =>
    cases haccepts
    obtain rfl := Option.some.inj (Option.ite_none_right_eq_some.1 htest).2
    exact hordered _
  | contains | startsWith | notEqual => cases haccepts

/-- An open end has one place, with a zone and without. -/
theorem compare_openEnd (v : Value) (zoned zoned' : Bool) :
    v.compare (.openEnd zoned) = v.compare (.openEnd zoned') := by
  cases zoned <;> cases zoned' <;> cases v <;> rfl

end Value

namespace Field

variable {test test' : Test} {text : String} {given : Value}

/-- What a literal stands for in one test has the place of what it stands for in another. -/
theorem Given.exists_alike (h : f.Given inventory test text given)
    (htest : ¬(test = .contains ∨ test = .startsWith))
    (htest' : ¬(test' = .contains ∨ test' = .startsWith)) :
    ∃ given', f.Given inventory test' text given' ∧
      ∀ v : Value, v.compare given' = v.compare given := by
  unfold Given at h ⊢
  by_cases hword : f.TakesForOpenEnd text
  · rw [if_pos hword] at h
    refine ⟨.openEnd (test' != .exact), ?_, fun v ↦ ?_⟩
    · rw [if_pos hword]
    · rw [h]
      exact v.compare_openEnd _ _
  · rw [if_neg hword, if_neg htest] at h
    refine ⟨given, ?_, fun _ ↦ rfl⟩
    rwa [if_neg hword, if_neg htest']

theorem Given.hasPlace (h : f.Given inventory test text given)
    (htest : ¬(test = .contains ∨ test = .startsWith)) (hkind : f.kind.isOrdered = true) :
    given.HasPlace := by
  rcases h.belongsTo_or_int htest with hbelongs | ⟨-, id, rfl⟩
  · exact hbelongs.hasPlace hkind
  · exact ⟨nofun, rfl⟩

end Field

/-! ## One comparison -/

/-- A text asks for fields by one comparison. -/
def Query.Compares (source : String) (shown : List String) (name : String) (op : Operator)
    (text : String) : Prop :=
  ∃ q field operator value, read source = .ok q ∧ q.fields.map (·.value) = shown ∧
    q.filter = some ⟨.comparison field operator value, []⟩ ∧
    field.value = name ∧ operator.value = op ∧ value.value = text

/-- The usual way to write a comparison. -/
theorem Query.compares_written {shown name literal text : String} {fields : List (Located String)}
    {span : Span} (hshown : read shown = .ok ⟨fields, none, span⟩) (hname : IsName name)
    (hliteral : Literal literal text) (op : Operator) :
    Compares (shown ++ " where " ++ (name ++ " " ++ op.symbol ++ " " ++ literal))
      (fields.map (·.value)) name op text := by
  obtain ⟨place, place', place'', span', hread⟩ := read_where_comparison hshown hname op hliteral
  exact ⟨_, _, _, _, hread, rfl, rfl, rfl, rfl, rfl⟩

namespace Plan

/-- What a text with one comparison becomes. -/
theorem ofSource_eq_ok_iff_of_compares {source : String} {shown : List String} {name text : String}
    {op : Operator} (hsource : Query.Compares source shown name op text)
    (hresolve : c.resolve? name = some f) {p : Plan} :
    ofSource c inventory source = .ok p ↔
      ∃ fields, List.Forall₂ (fun name f ↦ c.resolve? name = some f) shown fields ∧
        f.isComputed = false ∧ ∃ test given, op.test? f.kind = some test ∧
          f.Given inventory test text given ∧ p = ofBlocks fields (comparison f test given) [] := by
  obtain ⟨⟨tokens, filter, span⟩, field, operator, value, hread, rfl, hfilter, rfl, rfl, rfl⟩ :=
    hsource
  obtain rfl : filter = _ := hfilter
  rw [ofSource_eq_ok_iff_of_read hread, ofQuery_some_eq_ok_iff]
  simp only [block_comparison_eq_ok_iff, givenValue_eq_ok_iff, hresolve, List.forall₂_nil_left_iff,
    List.forall₂_map_left_iff]
  constructor
  · rintro ⟨fields, hfields, b, ⟨g, hg, hstored, test, htest, given, hgiven, rfl⟩, rest, rfl, rfl⟩
    obtain rfl := Option.some.inj hg
    exact ⟨fields, hfields, hstored, test, given, htest, hgiven, rfl⟩
  · rintro ⟨fields, hfields, hstored, test, given, htest, hgiven, rfl⟩
    exact ⟨fields, hfields, _, ⟨f, rfl, hstored, test, htest, given, hgiven, rfl⟩, [], rfl, rfl⟩

/-- The row of a plan with one condition alone has no other column than that of its field. -/
theorem selects_ofBlocks_alone (fields : List Field) (condition : Condition) :
    (ofBlocks fields ⟨condition, none, none⟩ []).selects inventory record =
      (condition.field.read inventory record).passes condition.test condition.given := by
  have hrow : ((ofBlocks fields ⟨condition, none, none⟩ []).evaluationRow inventory record).value
      condition.column = condition.field.read inventory record := by
    unfold Row.value
    rw [lookup_evaluationRow]
    simp [ofBlocks, blockLengths, Block.conditions, firstsBy, firstsAfter]
  rw [selects_eq_truth, truth_ofBlocks_nil, Option.any_none, Bool.or_false, Condition.holds, hrow]

theorem comparison_of_ordered (given : Value) {test : Test}
    (htext : ¬(test = .contains ∨ test = .startsWith)) (hdiffers : test ≠ .notEqual) :
    comparison f test given = ⟨⟨f, test, given⟩, none, none⟩ := by
  unfold comparison
  rw [if_neg (by simp [hdiffers]), if_neg (by simpa using htext)]

/-- A comparison for a place selects the records that have an accepted one. -/
theorem exists_ofSource_of_accepts? {source : String} {shown : List String} {name text : String}
    {op : Operator} (hsource : Query.Compares source shown name op text)
    (hresolve : c.resolve? name = some f) (hkind : f.kind.isOrdered = true)
    (hstored : f.isComputed = false) {fields : List Field}
    (hfields : List.Forall₂ (fun name f ↦ c.resolve? name = some f) shown fields)
    {accepts : Ordering → Bool} (haccepts : op.accepts? = some accepts) {test : Test}
    (htest : op.test? f.kind = some test) {given : Value}
    (hgiven : f.Given inventory test text given) :
    ∃ p, ofSource c inventory source = .ok p ∧ ∀ record,
      p.selects inventory record = ((f.read inventory record).compare given).any accepts := by
  obtain ⟨test', htest', htext, hdiffers⟩ := Operator.exists_test? haccepts hkind
  obtain rfl : test' = test := Option.some.inj (htest'.symm.trans htest)
  refine ⟨_, (ofSource_eq_ok_iff_of_compares hsource hresolve).2
    ⟨fields, hfields, hstored, test', given, htest, hgiven, rfl⟩, fun record ↦ ?_⟩
  rw [comparison_of_ordered given htext hdiffers, selects_ofBlocks_alone]
  exact Value.passes_of_accepts? htest haccepts (hgiven.hasPlace htext hkind)

/-- With an operator that asks for a place, the records are selected that have a place it accepts
beside what the literal stands for under equality. -/
theorem exists_ofSource_ordered {source : Operator → String} {shown : List String}
    {name text : String} (hsource : ∀ op, Query.Compares (source op) shown name op text)
    (hresolve : c.resolve? name = some f) (hkind : f.kind.isOrdered = true)
    {equal : Plan} (hequal : ofSource c inventory (source .equal) = .ok equal) :
    ∃ test given, Operator.equal.test? f.kind = some test ∧ f.Given inventory test text given ∧
      ∀ op accepts, op.accepts? = some accepts →
        ∃ p, ofSource c inventory (source op) = .ok p ∧ ∀ record,
          p.selects inventory record = ((f.read inventory record).compare given).any accepts := by
  obtain ⟨fields, hfields, hstored, test, given, htest, hgiven, -⟩ :=
    (ofSource_eq_ok_iff_of_compares (hsource .equal) hresolve).1 hequal
  have htext : ¬(test = .contains ∨ test = .startsWith) := by
    rcases Value.equal_or_exact_of_test? htest with rfl | rfl
    · decide
    · decide
  refine ⟨test, given, htest, hgiven, fun op accepts haccepts ↦ ?_⟩
  obtain ⟨test', htest', htext', -⟩ := Operator.exists_test? haccepts hkind
  obtain ⟨given', hgiven', halike⟩ := hgiven.exists_alike htext htext'
  obtain ⟨p, hp, hselects⟩ := exists_ofSource_of_accepts? (hsource op) hresolve hkind hstored
    hfields haccepts htest' hgiven'
  exact ⟨p, hp, fun record ↦ by rw [hselects, halike]⟩

/-- If a literal can be compared for equality with an ordered field, it can be with all the other
operators for places as well, and their answers fit together on every record.  One of less, equal
and more is true of a record exactly if what it stores is comparable with the literal. -/
theorem ofSource_ordered_fitTogether {source : Operator → String} {shown : List String}
    {name text : String} (hsource : ∀ op, Query.Compares (source op) shown name op text)
    (hresolve : c.resolve? name = some f) (hkind : f.kind.isOrdered = true) {equal : Plan}
    (hequal : ofSource c inventory (source .equal) = .ok equal) :
    ∃ test given, Operator.equal.test? f.kind = some test ∧ f.Given inventory test text given ∧
      ∃ plans : Operator → Plan,
        (∀ op, op.accepts?.isSome = true → ofSource c inventory (source op) = .ok (plans op)) ∧
        ∀ record, Operator.FitTogether (fun op ↦ (plans op).selects inventory record)
          (((f.read inventory record).compare given).isSome = true) := by
  obtain ⟨test, given, htest, hgiven, hplans⟩ :=
    exists_ofSource_ordered hsource hresolve hkind hequal
  refine ⟨test, given, htest, hgiven,
    fun op ↦ (ofSource c inventory (source op)).toOption.getD equal, ?_, ?_⟩
  · intro op hsome
    obtain ⟨accepts, haccepts⟩ := Option.isSome_iff_exists.1 hsome
    obtain ⟨p, hp, -⟩ := hplans op accepts haccepts
    simp only [hp]
    rfl
  · refine fun record ↦ Operator.fitTogether_of_accepts fun op accepts haccepts ↦ ?_
    obtain ⟨p, hp, hselects⟩ := hplans op accepts haccepts
    simp only [hp]
    exact hselects record

end Plan

/-! ## The word for an open end -/

namespace Catalog.Hosts

/-- A text that asks for the names of hosts by one comparison. -/
def asks (name literal : String) (op : Operator) : String :=
  "fqdn" ++ " where " ++ (name ++ " " ++ op.symbol ++ " " ++ literal)

theorem compares_asks (hf : f ∈ hosts.storedFields) {literal text : String}
    (hliteral : Query.Literal literal text) (op : Operator) :
    Query.Compares (asks f.token literal op) ["fqdn"] f.token op text := by
  have hread : Query.read "fqdn" = .ok ⟨[⟨"fqdn", 0, 4⟩], none, 0, 4⟩ := by decide +kernel
  exact Query.compares_written hread (isName_hosts hf) hliteral op

theorem isSome_resolve?_fqdn : ∀ name ∈ ["fqdn"], (hosts.resolve? name).isSome = true := by
  decide +kernel

/-- A text that compares the end of a reservation with the open end. -/
def untilForEver : Operator → String := asks "reserved_until" "Infinite"

theorem compares_untilForEver (op : Operator) :
    Query.Compares (untilForEver op) ["fqdn"] "reserved_until" op "Infinite" := by
  have hliteral : Query.Literal "Infinite" "Infinite" :=
    .word (by decide) (List.all_eq_true.1 (by decide)) (by decide) (by decide)
  exact compares_asks reservedUntil_mem hliteral op

end Catalog.Hosts

open Catalog.Hosts in
/-- The word becomes a plain timestamp for equality and an instant for the order. -/
theorem Plan.ofSource_ordered_fitTogether_of_openEnd :
    let host : Record := .ofList 1 [("reserved_until", .text "9999-12-31T23:59:59.999999")]
    (∀ op, Query.Compares (untilForEver op) ["fqdn"] "reserved_until" op "Infinite") ∧
    Catalog.hosts.resolve? "reserved_until" = some reservedUntil ∧
    ∃ equal atLeast atMost,
      ofSource Catalog.hosts .empty (untilForEver .equal) = .ok equal ∧
      ofSource Catalog.hosts .empty (untilForEver .atLeast) = .ok atLeast ∧
      ofSource Catalog.hosts .empty (untilForEver .atMost) = .ok atMost ∧
      equal.selects .empty host = true ∧ atLeast.selects .empty host = true ∧
      atMost.selects .empty host = true := by
  intro host
  have hresolve : Catalog.hosts.resolve? "reserved_until" = some reservedUntil :=
    Catalog.resolve?_hosts reservedUntil_mem
  have hplan : (ofSource Catalog.hosts .empty (untilForEver .equal)).toOption.map
      (·.selects .empty host) = some true := by decide +kernel
  obtain ⟨equal, hequal, hselects⟩ := exists_ok_of_toOption_map hplan
  obtain ⟨test, given, -, -, plans, hplans, hfit⟩ :=
    ofSource_ordered_fitTogether compares_untilForEver hresolve (by decide) hequal
  obtain rfl : plans .equal = equal := Except.ok.inj ((hplans .equal rfl).symm.trans hequal)
  refine ⟨compares_untilForEver, hresolve, plans .equal, plans .atLeast, plans .atMost, hequal,
    hplans .atLeast rfl, hplans .atMost rfl, hselects, ?_, ?_⟩
  · rw [(hfit host).atLeast, hselects, Bool.or_true]
  · rw [(hfit host).atMost, hselects, Bool.or_true]

end InventoryQuery
