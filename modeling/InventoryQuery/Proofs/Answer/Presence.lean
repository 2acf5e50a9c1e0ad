import InventoryQuery.Proofs.Answer.Single
import InventoryQuery.Proofs.Predicate.Tests

/-!
# Fields that are set and fields that are not

A field alone asks for the records it is set for, and a field after an exclamation mark for those it
is not set for.  Two tests decide that, and each of them needs a value to test: for a flag that is
neither true nor false, and for a text that is not there, neither test passes.
-/

namespace InventoryQuery

variable {inventory : Inventory} {record : Record} {f : Field}

namespace Field

/-- The field has a value, where null is a state of its own or nothing else is asked of its kind;
a flag is true, and a text has a character. -/
def IsSet (inventory : Inventory) (record : Record) (f : Field) : Prop :=
  if f.nullable then f.read inventory record ≠ .null
  else
    match f.kind with
    | .boolean => f.read inventory record = .bool true
    | .text | .longText => ∃ n, (f.read inventory record).charLength = .int n ∧ 0 < n
    | .reference | .date | .datetime | .numeric => f.read inventory record ≠ .null

/-- What is read for the field can be tested either way: a flag is true or false, and a text has a
number of characters. -/
def Decides (inventory : Inventory) (record : Record) (f : Field) : Prop :=
  f.nullable = false →
    match f.kind with
    | .boolean => ∃ b, f.read inventory record = .bool b
    | .text | .longText => ∃ n, (f.read inventory record).charLength = .int n ∧ 0 ≤ n
    | .reference | .date | .datetime | .numeric => True

theorem passes_bare_iff (f : Field) (inventory : Inventory) (record : Record) :
    (f.bareValue inventory record false).passes (f.bare false).condition.test
        (f.bare false).condition.given = true ↔ f.IsSet inventory record := by
  unfold bareValue IsSet bare presence
  cases f.nullable with
  | true => simp [Value.passes_isNull_iff]
  | false =>
    simp only [Bool.false_eq_true, if_false]
    cases f.kind with
    | boolean => exact Value.passes_exact_bool_iff
    | text | longText => exact Value.charLength_passes_greater_iff
    | reference | date | datetime | numeric => simp [Value.passes_isNull_iff]

theorem passes_bare_negated_iff (f : Field) (inventory : Inventory) (record : Record) :
    (f.bareValue inventory record true).passes (f.bare true).condition.test
        (f.bare true).condition.given = true ↔
      ¬f.IsSet inventory record ∧ f.Decides inventory record := by
  unfold bareValue IsSet Decides bare presence
  cases f.nullable with
  | true => simp [Value.passes_isNull_iff]
  | false =>
    simp only [Bool.false_eq_true, if_false]
    cases f.kind with
    | boolean =>
      simp only [Option.elim_none, Bool.not_true, Value.passes_exact_bool_iff]
      -- The tests are for the two truth values, which are not all the values that may be stored.
      cases f.read inventory record with
      | bool b => cases b <;> simp
      | _ => simp
    | text | longText =>
      simp only [Option.elim_some, if_true, Value.charLength_passes_exact_iff]
      rcases Value.charLength_eq_null_or_int (f.read inventory record) with hlength | ⟨n, hlength⟩
      · simp [hlength]
      · simpa [hlength] using Int64.le_antisymm_iff
    | reference | date | datetime | numeric => simp [Value.passes_isNull_iff]

/-- A field that is set decides that it is. -/
theorem IsSet.decides (h : f.IsSet inventory record) : f.Decides inventory record := by
  intro hnullable
  unfold IsSet at h
  rw [hnullable, if_neg Bool.false_ne_true] at h
  cases hkind : f.kind with
  | boolean =>
    rw [hkind] at h
    exact ⟨true, h⟩
  | text | longText =>
    rw [hkind] at h
    obtain ⟨n, hlength, hpositive⟩ := h
    exact ⟨n, hlength, Int64.le_of_lt hpositive⟩
  | reference | date | datetime | numeric => trivial

end Field

/-- After any list of fields, a stored field alone selects the hosts that it is set for, and the
field after an exclamation mark selects those that it is not set for, as far as they decide it.  So
exactly one of the two queries matches a host where the host decides it, and neither elsewhere. -/
theorem Plan.selects_bare_hosts_iff {shown : String} (hshown : Catalog.hosts.Lists shown)
    (hf : f ∈ Catalog.hosts.storedFields) (inventory : Inventory) :
    ∃ set unset,
      ofSource Catalog.hosts inventory (shown ++ " where " ++ f.token) = .ok set ∧
      ofSource Catalog.hosts inventory (shown ++ " where " ++ ("!" ++ f.token)) = .ok unset ∧
      ∀ host,
        (set.selects inventory host = true ↔ f.IsSet inventory host) ∧
        (unset.selects inventory host = true ↔
          ¬f.IsSet inventory host ∧ f.Decides inventory host) ∧
        (set.selects inventory host = !unset.selects inventory host ↔
          f.Decides inventory host) := by
  have hc := Catalog.coherent_hosts
  have hoffers := Catalog.offers_hosts hf
  obtain ⟨fields, hset⟩ := hshown.exists_ofSource_bare hoffers inventory false
  obtain ⟨fields', hunset⟩ := hshown.exists_ofSource_bare hoffers inventory true
  refine ⟨_, _, by simpa using hset, by simpa using hunset, fun host ↦ ?_⟩
  rw [(ofSource_fits hset).selects_bare hc hf, (ofSource_fits hunset).selects_bare hc hf]
  have hselected := f.passes_bare_iff inventory host
  have hrejected := f.passes_bare_negated_iff inventory host
  refine ⟨hselected, hrejected, ?_⟩
  rw [Bool.eq_not, ne_eq, Bool.eq_iff_iff, hselected, hrejected]
  have hdecides : f.IsSet inventory host → f.Decides inventory host := Field.IsSet.decides
  tauto

/-! ## Hosts with and without a comment -/

namespace Presence

def noted : Record := .ofList 1 [("fqdn", .text "a.test"), ("comment", .text "GPU box")]

def blank : Record := .ofList 2 [("fqdn", .text "b.test"), ("comment", .text "")]

def silent : Record := .ofList 3 [("fqdn", .text "c.test")]

end Presence

open Presence Catalog.Hosts in
theorem Plan.selects_bare_hosts_iff_of_comment :
    comment ∈ Catalog.hosts.storedFields ∧
    ∃ set unset,
      ofSource Catalog.hosts .empty "fqdn where comment" = .ok set ∧
      ofSource Catalog.hosts .empty "fqdn where !comment" = .ok unset ∧
      (set.selects .empty noted = true ∧ set.selects .empty noted = !unset.selects .empty noted) ∧
      (unset.selects .empty blank = true ∧
        set.selects .empty blank = !unset.selects .empty blank) := by
  have hset : comment.IsSet .empty noted := ⟨7, by decide, by decide⟩
  have hunset : ¬comment.IsSet .empty blank := by
    rintro ⟨n, hlength, hpositive⟩
    have hzero : (comment.read .empty blank).charLength = .int 0 := by decide
    rw [hzero, Value.int.injEq] at hlength
    exact absurd hpositive (by simp [← hlength])
  have hdecides : comment.Decides .empty blank := fun _ ↦ ⟨0, by decide, by decide⟩
  obtain ⟨set, unset, hplan, hplan', hall⟩ :=
    selects_bare_hosts_iff Catalog.lists_fqdn comment_mem .empty
  obtain ⟨hnoted, -, hone⟩ := hall noted
  obtain ⟨-, hblank, hone'⟩ := hall blank
  exact ⟨comment_mem, set, unset, hplan, hplan', ⟨hnoted.2 hset, hone.2 hset.decides⟩,
    hblank.2 ⟨hunset, hdecides⟩, hone'.2 hdecides⟩

open Presence in
/-- A host without a comment matches neither way. -/
theorem Plan.selects_bare_silent :
    ∃ set unset,
      ofSource Catalog.hosts .empty "fqdn where comment" = .ok set ∧
      ofSource Catalog.hosts .empty "fqdn where !comment" = .ok unset ∧
      set.selects .empty silent = false ∧ unset.selects .empty silent = false := by
  have hset : (ofSource Catalog.hosts .empty "fqdn where comment").toOption.map
      (·.selects .empty silent) = some false := by decide +kernel
  have hunset : (ofSource Catalog.hosts .empty "fqdn where !comment").toOption.map
      (·.selects .empty silent) = some false := by decide +kernel
  obtain ⟨set, hset, hselects⟩ := exists_ok_of_toOption_map hset
  obtain ⟨unset, hunset, hselects'⟩ := exists_ok_of_toOption_map hunset
  exact ⟨set, unset, hset, hunset, hselects, hselects'⟩

end InventoryQuery
