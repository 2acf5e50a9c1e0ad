import InventoryQuery.Proofs.Answer.Single
import InventoryQuery.Proofs.Value.ReadBack

/-!
# Equal and different

Of the queries for a value and for any other value exactly one matches a host, null being different
from every value.  Only a reference that is no number is neither, since it differs from an id by
being greater or less.
-/

namespace InventoryQuery

variable {inventory : Inventory} {record : Record} {f : Field}

namespace Field

/-! ## The values that both queries compare with -/

/-- Apart from the open end, what a literal stands for does not depend on the test. -/
theorem Given.unique {test test' : Test} {text : String} {given given' : Value}
    (h : f.Given inventory test text given) (h' : f.Given inventory test' text given')
    (hword : ¬f.TakesForOpenEnd text) (htest : ¬(test = .contains ∨ test = .startsWith))
    (htest' : ¬(test' = .contains ∨ test' = .startsWith)) : given = given' := by
  unfold Given at h h'
  rw [if_neg hword, if_neg htest] at h
  rw [if_neg hword, if_neg htest'] at h'
  cases hlookup : f.lookup with
  | some lookup =>
    rw [hlookup] at h h'
    exact Except.ok.inj (h.symm.trans h')
  | none =>
    rw [hlookup] at h h'
    exact Except.ok.inj (h.symm.trans h')

/-- A name stands for an id. -/
theorem Given.exists_int {test : Test} {text : String} {given : Value} {lookup : NameLookup}
    (h : f.Given inventory test text given) (hkind : f.kind = .reference)
    (hlookup : f.lookup = some lookup) (htest : ¬(test = .contains ∨ test = .startsWith)) :
    ∃ id, given = .int id := by
  have hword : ¬f.TakesForOpenEnd text := by simp [TakesForOpenEnd, hkind]
  unfold Given NameLookup.value at h
  rw [if_neg hword, if_neg htest, hlookup] at h
  simp only at h
  split at h
  · next id _ => exact ⟨id, (Except.ok.inj h).symm⟩
  · cases h

theorem Given.isMoment {test : Test} {text : String} {given : Value}
    (h : f.Given inventory test text given) (hkind : f.kind = .datetime) (hlookup : f.lookup = none)
    (htest : ¬(test = .contains ∨ test = .startsWith)) : given.IsMoment := by
  unfold Given at h
  by_cases hword : f.TakesForOpenEnd text
  · rw [if_pos hword] at h
    rw [h, Value.openEnd]
    split
    · trivial
    · trivial
  · rw [if_neg hword, if_neg htest, hlookup, hkind] at h
    simp only [Value.ofLiteral] at h
    cases hread : Value.readMoment text with
    | none => simp [hread] at h
    | some v =>
      obtain rfl : v = given := by simpa [hread] using h
      exact Value.isMoment_of_readMoment hread

/-- Stored values are equal to the one literal for `=` as they are to that for `!=`. -/
theorem Given.passes_equal {test test' : Test} {text : String} {given given' : Value}
    (h : f.Given inventory test text given) (h' : f.Given inventory test' text given')
    (htest : ¬(test = .contains ∨ test = .startsWith))
    (htest' : ¬(test' = .contains ∨ test' = .startsWith)) (v : Value) :
    v.passes .equal given = v.passes .equal given' := by
  by_cases hword : f.TakesForOpenEnd text
  · -- The word may stand for a timestamp on one side and for an instant on the other.
    unfold Given at h h'
    rw [if_pos hword] at h h'
    rw [h, h', Value.passes_equal_openEnd, ← Value.passes_equal_openEnd v (test' != .exact)]
  · rw [h.unique h' hword htest htest']

/-- For fields of other kinds than references, difference is the negation of equality. -/
theorem Given.passes_eq_not (hf : f ∈ Catalog.hosts.storedFields) (hkind : f.kind ≠ .reference)
    {test : Test} (htest : Operator.equal.test? f.kind = some test) {text : String}
    {given given' : Value} (h : f.Given inventory test text given)
    (h' : f.Given inventory .notEqual text given') (v : Value) :
    v.passes test given = !v.passes .notEqual given' := by
  have hlookup := (Catalog.plain_hosts hf hkind).1
  have hsame : (if f.kind = .datetime then Test.exact else .equal) = test := by
    apply Option.some.inj
    rw [← htest]
    cases hk : f.kind <;> simp_all [Operator.test?]
  have htext : ¬(test = .contains ∨ test = .startsWith) := by
    rw [← hsame]
    split
    · decide
    · decide
  have hequal : v.passes test given = v.passes .equal given := by
    by_cases hmoment : f.kind = .datetime
    · rw [← hsame, if_pos hmoment]
      exact Value.passes_exact_of_not_text v (h.isMoment hmoment hlookup htext).asText?_eq_none
    · rw [← hsame, if_neg hmoment]
  calc
    v.passes test given = v.passes .equal given := hequal
    _ = v.passes .equal given' := h.passes_equal h' htext (by decide) v
    _ = !v.passes .notEqual given' := by rw [Value.passes_notEqual, Bool.not_not]

end Field

/-! ## The two queries -/

namespace Plan

/-- Not both of the queries `=` and `!=` for one literal match a host, and exactly one does unless a
reference is compared and what the host stores for it is no number. -/
theorem selects_difference_hosts_iff {shown : String} (hshown : Catalog.hosts.Lists shown)
    (hf : f ∈ Catalog.hosts.storedFields) {literal text : String}
    (hliteral : Query.Literal literal text) {equal different : Plan}
    (hequal : ofSource Catalog.hosts inventory
      (shown ++ " where " ++ (f.token ++ " " ++ "=" ++ " " ++ literal)) = .ok equal)
    (hdifferent : ofSource Catalog.hosts inventory
      (shown ++ " where " ++ (f.token ++ " " ++ "!=" ++ " " ++ literal)) = .ok different)
    (host : Record) :
    ¬(equal.selects inventory host = true ∧ different.selects inventory host = true) ∧
      (equal.selects inventory host = !different.selects inventory host ↔
        (f.kind = .reference → (f.read inventory host).IsNumber)) := by
  have hc := Catalog.coherent_hosts
  have hoffers := Catalog.offers_hosts hf
  obtain ⟨fields, hsource⟩ :=
    hshown.ofSource_comparison_eq_ok_iff hoffers inventory .equal hliteral
  obtain ⟨fields', hsource'⟩ :=
    hshown.ofSource_comparison_eq_ok_iff hoffers inventory .notEqual hliteral
  obtain ⟨test, given, htest, hgiven, rfl⟩ := (hsource _).1 hequal
  obtain ⟨test', given', htest', hgiven', rfl⟩ := (hsource' _).1 hdifferent
  have hp := ofSource_fits hequal
  have hp' := ofSource_fits hdifferent
  obtain rfl : Test.notEqual = test' := Option.some.inj htest'
  by_cases hkind : f.kind = .reference
  · obtain ⟨-, table, key, hlookup, -⟩ := Catalog.reference_hosts hf hkind
    have hword : ¬f.TakesForOpenEnd text := by simp [Field.TakesForOpenEnd, hkind]
    obtain rfl : Test.exact = test := by simpa [Operator.test?, hkind] using htest
    -- Both literals are the same name, and it stands for one id.
    obtain rfl : given = given' := hgiven.unique hgiven' hword (by decide) (by decide)
    obtain ⟨id, rfl⟩ := hgiven.exists_int hkind hlookup (by decide)
    rw [hp.selects_comparison_of_other hc hf (by simp),
      hp'.selects_comparison_of_reference hc hf hkind, if_neg (by decide)]
    simpa [hkind] using (f.read inventory host).passes_exact_or_ordered id
  · rw [hp.selects_comparison_of_other hc hf (by simp [hkind]),
      hp'.selects_comparison_of_other hc hf (by simp [hkind]),
      Catalog.shownField?_getD_hosts hf hkind, ite_self, ite_self,
      hgiven.passes_eq_not hf hkind htest hgiven']
    simp [hkind]

end Plan

/-! ## Open ends and missing references -/

namespace Difference

/-- A host of no architecture, reserved for ever. -/
def host : Record :=
  .ofList 1 [("fqdn", .text "a.test"), ("reserved_until", .text "9999-12-31T23:59:59.999999")]

end Difference

open Difference Catalog.Hosts in
/-- The word for an open end becomes two different literals, and still one of the two queries
matches. -/
theorem Plan.selects_difference_hosts_iff_of_openEnd :
    reservedUntil ∈ Catalog.hosts.storedFields ∧ Query.Literal "infinite" "infinite" ∧
    ∃ equal different,
      ofSource Catalog.hosts .empty "fqdn where reserved_until = infinite" = .ok equal ∧
      ofSource Catalog.hosts .empty "fqdn where reserved_until != infinite" = .ok different ∧
      equal.selects .empty host = true ∧
      equal.selects .empty host = !different.selects .empty host := by
  have hliteral : Query.Literal "infinite" "infinite" :=
    .word (by decide) (List.all_eq_true.1 (by decide)) (by decide) (by decide)
  have hequal : (ofSource Catalog.hosts .empty
      "fqdn where reserved_until = infinite").toOption.map (·.selects .empty host) =
        some true := by decide +kernel
  have hdifferent : (ofSource Catalog.hosts .empty
      "fqdn where reserved_until != infinite").toOption.isSome = true := by decide +kernel
  obtain ⟨equal, hequal, hselects⟩ := exists_ok_of_toOption_map hequal
  obtain ⟨different, hdifferent⟩ := Option.isSome_iff_exists.1 hdifferent
  have hdifferent := toOption_eq_some_iff.1 hdifferent
  have hone := (selects_difference_hosts_iff Catalog.lists_fqdn reservedUntil_mem hliteral hequal
    hdifferent host).2
  exact ⟨reservedUntil_mem, hliteral, equal, different, hequal, hdifferent, hselects,
    hone.2 fun hkind ↦ absurd hkind (by decide)⟩

open Difference Catalog.Hosts in
/-- A host without an architecture is neither of an architecture nor of another one. -/
theorem Plan.selects_difference_missing :
    ∃ equal different,
      ofSource Catalog.hosts architectures "fqdn where arch = x86_64" = .ok equal ∧
      ofSource Catalog.hosts architectures "fqdn where arch != x86_64" = .ok different ∧
      equal.selects architectures host = false ∧
      different.selects architectures host = false := by
  have hequal : (ofSource Catalog.hosts architectures
      "fqdn where arch = x86_64").toOption.map (·.selects architectures host) =
        some false := by decide +kernel
  have hdifferent : (ofSource Catalog.hosts architectures
      "fqdn where arch != x86_64").toOption.map (·.selects architectures host) =
        some false := by decide +kernel
  obtain ⟨equal, hequal, hselects⟩ := exists_ok_of_toOption_map hequal
  obtain ⟨different, hdifferent, hselects'⟩ := exists_ok_of_toOption_map hdifferent
  exact ⟨equal, different, hequal, hdifferent, hselects, hselects'⟩

end InventoryQuery
