import InventoryQuery.Proofs.Answer.Bounds
import InventoryQuery.Proofs.Predicate.Tests
import InventoryQuery.Proofs.Text.Lowering

/-!
# Searching for what is there

Substring and prefix tests ignore case by lowering both texts as wholes.  A text that is there
letter by letter is not found by them where its neighbours make another sigma of one of its own.
-/

namespace InventoryQuery

variable {c : Catalog} {inventory : Inventory} {record : Record} {f : Field}

open Text (Undisturbed Settled SettledBehind)

namespace Field

/-- What searches of the field read of a record is this text. -/
def Searched (inventory : Inventory) (record : Record) (f : Field) (s : String) : Prop :=
  (f.shownField?.getD f).read inventory record = .text s

instance {s : String} : Decidable (f.Searched inventory record s) :=
  inferInstanceAs (Decidable (_ = _))

/-- A text of the record itself, which is shown as it is. -/
structure IsOwnText (f : Field) : Prop where
  textual : f.kind.isTextual = true
  stored : f.isComputed = false
  own : f.path = []
  named : f.key ≠ Record.idName
  plain : f.shownField? = none

/-- Such a field can hold any text. -/
theorem IsOwnText.exists_searched (h : f.IsOwnText) (inventory : Inventory) (s : String) :
    ∃ record, f.Searched inventory record s := by
  refine ⟨.ofList 1 [(f.key, .text s)], ?_⟩
  have hget : (Record.ofList 1 [(f.key, .text s)]).get? f.key = some (.text s) := by
    rw [Record.get?, if_neg h.named]
    exact List.lookup_cons_self
  have hcoerce : (Value.text s).coerce f.kind = .text s := by
    have htextual := h.textual
    cases hkind : f.kind with
    | text | longText => rfl
    | _ => simp [hkind, Kind.isTextual] at htextual
  unfold Searched
  rw [h.plain, Option.getD_none, read, h.stored, h.own, if_neg Bool.false_ne_true]
  simp only [Inventory.follow, List.foldlM_nil]
  exact (congrArg (fun v : Option Value ↦ (v.getD .null).coerce f.kind) hget).trans hcoerce

theorem Searched.passes_contains_iff {s : String} (h : f.Searched inventory record s)
    (text : String) :
    ((f.shownField?.getD f).read inventory record).passes .contains (.text text) = true ↔
      Text.lower text.toList <:+: Text.lower s.toList := by
  rw [h, Value.passes_contains_iff (by simp)]
  exact and_iff_right (by simp)

theorem Searched.passes_startsWith_iff {s : String} (h : f.Searched inventory record s)
    (text : String) :
    ((f.shownField?.getD f).read inventory record).passes .startsWith (.text text) = true ↔
      Text.lower text.toList <+: Text.lower s.toList := by
  rw [h, Value.passes_startsWith_iff (by simp)]
  exact and_iff_right (by simp)

end Field

/-- A plan selects every record in which what is searched stands in a relation to the text as it
is. -/
def Plan.FindsVerbatim (p : Plan) (inventory : Inventory) (f : Field)
    (relation : List Char → List Char → Prop) (text : String) : Prop :=
  ∀ record s, f.Searched inventory record s → relation text.toList s.toList →
    p.selects inventory record = true

namespace Plan

/-- A search is one condition on what is shown for the field. -/
theorem comparison_of_search (given : Value) {test : Test}
    (htest : test = .contains ∨ test = .startsWith) :
    comparison f test given = ⟨⟨f.shownField?.getD f, test, given⟩, none, none⟩ := by
  have hdiffers : ¬(f.kind = .reference ∧ test = .notEqual) := by
    rintro ⟨-, rfl⟩
    simp at htest
  unfold comparison
  rw [if_neg (by simpa using hdiffers), if_pos (by simpa using htest)]

section Search

variable {shown : List String} (hshown : ∀ name ∈ shown, (c.resolve? name).isSome = true)
  {name text : String} (hresolve : c.resolve? name = some f) (hstored : f.isComputed = false)
  (hkind : f.kind ≠ .datetime)

include hshown hresolve hstored hkind

/-- A text is searched for in what is shown for the field. -/
theorem exists_ofSource_of_search (inventory : Inventory) {source : String} {op : Operator}
    {test : Test} (hsource : Query.Compares source shown name op text)
    (htest : op.test? f.kind = some test) (hsearch : test = .contains ∨ test = .startsWith) :
    ∃ p, ofSource c inventory source = .ok p ∧ ∀ record, p.selects inventory record =
      ((f.shownField?.getD f).read inventory record).passes test (.text text) := by
  obtain ⟨fields, hfields⟩ := exists_forall₂_of_isSome hshown
  have hgiven : f.Given inventory test text (.text text) := by
    unfold Field.Given
    rw [if_neg fun hword ↦ hkind hword.1, if_pos hsearch]
  refine ⟨_, (ofSource_eq_ok_iff_of_compares hsource hresolve).2
    ⟨fields, hfields, hstored, test, _, htest, hgiven, rfl⟩, fun record ↦ ?_⟩
  rw [comparison_of_search _ hsearch, selects_ofBlocks_alone]

theorem exists_ofSource_contains (inventory : Inventory) {source : String}
    (hsource : Query.Compares source shown name .contains text) :
    ∃ p, ofSource c inventory source = .ok p ∧ ∀ record s, f.Searched inventory record s →
      (p.selects inventory record = true ↔
        Text.lower text.toList <:+: Text.lower s.toList) := by
  obtain ⟨p, hp, hselects⟩ := exists_ofSource_of_search hshown hresolve hstored hkind inventory
    hsource rfl (.inl rfl)
  refine ⟨p, hp, fun record s hs ↦ ?_⟩
  rw [hselects, hs.passes_contains_iff]

theorem exists_ofSource_startsWith (inventory : Inventory) {source : String}
    (hsource : Query.Compares source shown name .startsWith text) :
    ∃ p, ofSource c inventory source = .ok p ∧ ∀ record s, f.Searched inventory record s →
      (p.selects inventory record = true ↔
        Text.lower text.toList <+: Text.lower s.toList) := by
  obtain ⟨p, hp, hselects⟩ := exists_ofSource_of_search hshown hresolve hstored hkind inventory
    hsource rfl (.inr rfl)
  refine ⟨p, hp, fun record s hs ↦ ?_⟩
  rw [hselects, hs.passes_startsWith_iff]

/-- What is there letter by letter is found by a substring test wherever it is not disturbed, and by
a prefix test exactly there.  So it is always found if the text settles its capital sigmas, and only
then if the field can hold any text. -/
theorem findsVerbatim_iff {source : Operator → String}
    (hsource : ∀ op, Query.Compares (source op) shown name op text) :
    ∃ within ahead, ofSource c inventory (source .contains) = .ok within ∧
      ofSource c inventory (source .startsWith) = .ok ahead ∧
      (∀ record s, f.Searched inventory record s →
        (∀ before after, s.toList = before ++ text.toList ++ after →
          Undisturbed before.reverse text.toList after → within.selects inventory record = true) ∧
        ∀ after, s.toList = text.toList ++ after →
          (ahead.selects inventory record = true ↔ Undisturbed [] text.toList after)) ∧
      (Settled text.toList → within.FindsVerbatim inventory f (· <:+: ·) text) ∧
      (SettledBehind text.toList → ahead.FindsVerbatim inventory f (· <+: ·) text) ∧
      (f.IsOwnText →
        (within.FindsVerbatim inventory f (· <:+: ·) text → Settled text.toList) ∧
        (ahead.FindsVerbatim inventory f (· <+: ·) text → SettledBehind text.toList)) := by
  obtain ⟨within, hwithin, hinside⟩ :=
    exists_ofSource_contains hshown hresolve hstored hkind inventory (hsource .contains)
  obtain ⟨ahead, hahead, hstart⟩ :=
    exists_ofSource_startsWith hshown hresolve hstored hkind inventory (hsource .startsWith)
  refine ⟨within, ahead, hwithin, hahead, fun record s hs ↦ ⟨?_, ?_⟩, ?_, ?_, fun hown ↦ ⟨?_, ?_⟩⟩
  · intro before after hplace hundisturbed
    rw [hinside record s hs, hplace]
    exact hundisturbed.infix_lower
  · intro after hplace
    rw [hstart record s hs, hplace, Text.lower_prefix_iff]
  · rintro hsettled record s hs ⟨before, after, hplace⟩
    rw [hinside record s hs, ← hplace]
    exact Text.forall_lower_infix_iff.2 hsettled before after
  · rintro hsettled record s hs ⟨after, hplace⟩
    rw [hstart record s hs, ← hplace]
    exact Text.forall_lower_prefix_iff.2 hsettled after
  · intro hfinds
    refine Text.forall_lower_infix_iff.1 fun before after ↦ ?_
    obtain ⟨record, hs⟩ :=
      hown.exists_searched inventory (String.ofList (before ++ text.toList ++ after))
    have hselects := hfinds record _ hs (by
      rw [String.toList_ofList]
      exact List.infix_append _ _ _)
    rwa [hinside record _ hs, String.toList_ofList] at hselects
  · intro hfinds
    refine Text.forall_lower_prefix_iff.1 fun after ↦ ?_
    obtain ⟨record, hs⟩ := hown.exists_searched inventory (String.ofList (text.toList ++ after))
    have hselects := hfinds record _ hs (by
      rw [String.toList_ofList]
      exact List.prefix_append _ _)
    rwa [hstart record _ hs, String.toList_ofList] at hselects

end Search

end Plan

/-! ## Odysseus -/

namespace Verbatim

open Catalog.Hosts

/-- A text that searches the comments of hosts for a word. -/
def searching : String → Operator → String := asks "comment"

def host : Record := .ofList 1 [("comment", .text "ΟΔΥΣΣΕΥΣ")]

end Verbatim

open Verbatim Catalog.Hosts in
/-- What is there without its capital sigmas is found. -/
theorem Plan.findsVerbatim_iff_of_odys :
    (∀ op, Query.Compares (searching "ΟΔΥ" op) ["fqdn"] "comment" op "ΟΔΥ") ∧
    comment.Searched .empty host "ΟΔΥΣΣΕΥΣ" ∧ Settled "ΟΔΥ".toList ∧
    ∃ within ahead, ofSource Catalog.hosts .empty (searching "ΟΔΥ" .contains) = .ok within ∧
      ofSource Catalog.hosts .empty (searching "ΟΔΥ" .startsWith) = .ok ahead ∧
      within.selects .empty host = true ∧ ahead.selects .empty host = true := by
  have hliteral : Query.Literal "ΟΔΥ" "ΟΔΥ" :=
    .word (by decide) (List.all_eq_true.1 (by decide)) (by decide) (by decide)
  have hcompares : ∀ op, Query.Compares (searching "ΟΔΥ" op) ["fqdn"] "comment" op "ΟΔΥ" :=
    compares_asks comment_mem hliteral
  have hsearched : comment.Searched .empty host "ΟΔΥΣΣΕΥΣ" := by decide +kernel
  have hsettled : Settled "ΟΔΥ".toList := Text.settled_of_notMem (by decide)
  obtain ⟨within, ahead, hwithin, hahead, -, hinside, hstart, -⟩ := findsVerbatim_iff
    isSome_resolve?_fqdn (Catalog.resolve?_hosts comment_mem) (by decide) (by decide) hcompares
  exact ⟨hcompares, hsearched, hsettled, within, ahead, hwithin, hahead,
    hinside hsettled host _ hsearched (by decide),
    hstart hsettled.settledBehind host _ hsearched (by decide)⟩

open Verbatim Catalog.Hosts in
/-- With the first of its sigmas the beginning is not found, as it ends with a final sigma alone. -/
theorem Plan.selects_disturbed :
    comment.Searched .empty host "ΟΔΥΣΣΕΥΣ" ∧ "ΟΔΥΣ".toList <+: "ΟΔΥΣΣΕΥΣ".toList ∧
    ∃ within ahead, ofSource Catalog.hosts .empty "fqdn where comment =~ ΟΔΥΣ" = .ok within ∧
      ofSource Catalog.hosts .empty "fqdn where comment =* ΟΔΥΣ" = .ok ahead ∧
      within.selects .empty host = false ∧ ahead.selects .empty host = false := by
  have hwithin : (ofSource Catalog.hosts .empty "fqdn where comment =~ ΟΔΥΣ").toOption.map
      (·.selects .empty host) = some false := by decide +kernel
  have hahead : (ofSource Catalog.hosts .empty "fqdn where comment =* ΟΔΥΣ").toOption.map
      (·.selects .empty host) = some false := by decide +kernel
  obtain ⟨within, hwithin, hselects⟩ := exists_ok_of_toOption_map hwithin
  obtain ⟨ahead, hahead, hselects'⟩ := exists_ok_of_toOption_map hahead
  exact ⟨by decide +kernel, by decide, within, ahead, hwithin, hahead, hselects, hselects'⟩

end InventoryQuery
