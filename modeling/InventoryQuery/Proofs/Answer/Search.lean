import InventoryQuery.Proofs.Answer.Single
import InventoryQuery.Proofs.Predicate.Tests

/-!
# Searching in what is shown

Substring and prefix tests read the cell that is shown for a field, with three exceptions.  The word
for an open end is a timestamp to them and no text, an open end that is shown as that word is read
as the timestamp that it is, and a reference without a name, which is shown as it is, is not read at
all.
-/

namespace InventoryQuery

variable {inventory : Inventory} {record : Record} {f : Field}

namespace Field

/-- What is shown of the record that the field refers to. -/
def name? (inventory : Inventory) (record : Record) (f : Field) : Option Value :=
  match f.rendering with
  | some (.name table key) =>
    ((f.read inventory record).asInt?.bind (inventory.get? table ·)).bind (·.get? key)
  | _ => none

/-- The field holds a reference that has no name. -/
def Nameless (inventory : Inventory) (record : Record) (f : Field) : Prop :=
  f.kind = .reference ∧ f.read inventory record ≠ .null ∧ f.name? inventory record = none

instance : Decidable (f.Nameless inventory record) := inferInstanceAs (Decidable (_ ∧ _ ∧ _))

/-- The field is shown as the word for an open end. -/
def ShowsOpenEnd (inventory : Inventory) (record : Record) (f : Field) : Prop :=
  f.rendering = some .openEnd ∧ (f.read inventory record).isOpenEnd = true

instance : Decidable (f.ShowsOpenEnd inventory record) := inferInstanceAs (Decidable (_ ∧ _))

/-- The cell of a field stands in a relation to a text, apart from the three exceptions. -/
def Finds (relation : List Char → List Char → Prop) (inventory : Inventory) (record : Record)
    (f : Field) (text : String) : Prop :=
  if f.TakesForOpenEnd text then
    (f.read inventory record).HasText relation (Value.openEnd true).toText
  else if f.Nameless inventory record then False
  else if f.ShowsOpenEnd inventory record then (f.read inventory record).HasText relation text
  else (f.cell inventory record).HasText relation text

/-! ## What is read -/

theorem raw_hosts (hf : f ∈ Catalog.hosts.storedFields) :
    f.raw inventory record = f.read inventory record := by
  have hstored : f.isComputed = false := Catalog.isComputed_of_mem_storedFields hf
  have hcomputation : f.computation = none := by simpa [isComputed] using hstored
  unfold raw
  rw [hcomputation]
  by_cases hid : f.token = Record.idName
  · rw [Catalog.id_hosts hf hid]
    rfl
  · simp only [if_neg hid]

theorem read_of_path_nil (hstored : f.isComputed = false) (hpath : f.path = [])
    (hkind : f.kind = .reference) :
    f.read inventory record = (record.get? f.key).getD .null := by
  unfold read Inventory.follow
  rw [hstored, hpath, hkind]
  rfl

/-- Where a name is shown for a reference, the test reads that name. -/
theorem read_shownField (hstored : f.isComputed = false) (hpath : f.path = [])
    (hkind : f.kind = .reference) {table key : String}
    (hrendering : f.rendering = some (.name table key)) :
    (f.shownField?.getD f).read inventory record = (f.name? inventory record).getD .null := by
  have hcomputation : f.computation = none := by simpa [isComputed] using hstored
  have hreference : (f.read inventory record).asInt? = record.reference? f.key := by
    rw [read_of_path_nil hstored hpath hkind, Record.reference?]
    cases record.get? f.key with
    | none => rfl
    | some v => rfl
  unfold shownField? name?
  rw [hcomputation, hrendering, hpath, hreference]
  cases hfollow : (record.reference? f.key).bind (inventory.get? table ·) with
  | none => simp [read, isComputed, Inventory.follow, hfollow]
  | some r => simp [read, isComputed, Inventory.follow, hfollow, Value.coerce]

theorem read_searched_of_reference (hf : f ∈ Catalog.hosts.storedFields)
    (hkind : f.kind = .reference) :
    (f.shownField?.getD f).read inventory record =
      if f.Nameless inventory record then .null else f.cell inventory record := by
  have hstored : f.isComputed = false := Catalog.isComputed_of_mem_storedFields hf
  obtain ⟨hpath, table, key, -, hrendering⟩ := Catalog.reference_hosts hf hkind
  have hshown : (Rendering.name table key).shown inventory (f.read inventory record) =
      (f.name? inventory record).getD (f.read inventory record) := by
    simp only [Rendering.shown, name?, hrendering]
  rw [read_shownField hstored hpath hkind hrendering, cell, raw_hosts hf]
  simp only [hrendering, hshown]
  by_cases hnull : f.read inventory record = .null
  · -- Null refers to nothing, and it is shown as null.
    have hnone : f.name? inventory record = none := by
      simp [name?, hrendering, hnull, Value.asInt?]
    simp [Nameless, hnull, hnone, Value.isNull]
  · have hnotNull : (f.read inventory record).isNull = false := by
      simpa using mt Value.isNull_iff.1 hnull
    cases hname : f.name? inventory record with
    | none => simp [Nameless, hkind, hnull, hname]
    | some v => simp [Nameless, hname, hnotNull]

theorem read_eq_cell_of_ne_reference (hf : f ∈ Catalog.hosts.storedFields)
    (hkind : f.kind ≠ .reference) (hopen : ¬f.ShowsOpenEnd inventory record) :
    f.read inventory record = f.cell inventory record := by
  unfold cell
  rw [raw_hosts hf]
  rcases (Catalog.plain_hosts hf hkind).2 with hrendering | ⟨hrendering, -⟩
  · simp only [hrendering]
  · have hend : (f.read inventory record).isOpenEnd = false := by
      simpa [ShowsOpenEnd, hrendering] using hopen
    simp [hrendering, Rendering.shown, hend]

/-- A test of text reads the cell, unless the reference has no name or the open end is shown. -/
theorem read_searched (hf : f ∈ Catalog.hosts.storedFields) :
    (f.shownField?.getD f).read inventory record =
      if f.Nameless inventory record then .null
      else if f.ShowsOpenEnd inventory record then f.read inventory record
      else f.cell inventory record := by
  by_cases hkind : f.kind = .reference
  · obtain ⟨-, table, key, -, hrendering⟩ := Catalog.reference_hosts hf hkind
    have hopen : ¬f.ShowsOpenEnd inventory record := by simp [ShowsOpenEnd, hrendering]
    rw [read_searched_of_reference hf hkind, if_neg hopen]
  · have hnameless : ¬f.Nameless inventory record := fun h ↦ hkind h.1
    rw [Catalog.shownField?_getD_hosts hf hkind, if_neg hnameless]
    split
    · rfl
    · next hopen => exact read_eq_cell_of_ne_reference hf hkind hopen

end Field

namespace Plan

/-- What a search becomes after a list of fields, and what it finds. -/
theorem exists_ofSource_search {shown : String} (hshown : Catalog.hosts.Lists shown)
    (hf : f ∈ Catalog.hosts.storedFields) (inventory : Inventory) {op : Operator} {test : Test}
    (htest : op.test? f.kind = some test) (htext : test = .contains ∨ test = .startsWith)
    {literal text : String} (hliteral : Query.Literal literal text)
    {relation : List Char → List Char → Prop}
    (hpasses : ∀ v given : Value, given ≠ .null →
      (v.passes test given = true ↔ v.HasText relation given.toText)) :
    ∃ p, ofSource Catalog.hosts inventory
        (shown ++ " where " ++ (f.token ++ " " ++ op.symbol ++ " " ++ literal)) = .ok p ∧
      ∀ host, p.selects inventory host = true ↔ f.Finds relation inventory host text := by
  have hoffers := Catalog.offers_hosts hf
  obtain ⟨fields, hsource⟩ := hshown.ofSource_comparison_eq_ok_iff hoffers inventory op hliteral
  let given : Value := if f.TakesForOpenEnd text then .openEnd true else .text text
  have hgiven : f.Given inventory test text given := by
    unfold Field.Given
    by_cases hword : f.TakesForOpenEnd text
    · have hexact : (test != .exact) = true := by
        rcases htext with rfl | rfl
        · decide
        · decide
      rw [if_pos hword, hexact]
      exact if_pos hword
    · rw [if_neg hword, if_pos htext]
      exact if_neg hword
  have hplan := (hsource _).2 ⟨test, given, htest, hgiven, rfl⟩
  refine ⟨_, hplan, fun host ↦ ?_⟩
  have hother : ¬(f.kind = .reference ∧ test = .notEqual) := by
    rintro ⟨-, rfl⟩
    simp at htext
  rw [(ofSource_fits hplan).selects_comparison_of_other Catalog.coherent_hosts hf hother,
    if_pos htext]
  unfold Field.Finds
  -- The word is replaced before the test is looked at, so that case comes first.
  by_cases hword : f.TakesForOpenEnd text
  · have hkind : f.kind ≠ .reference := by simp [hword.1]
    have hopen : given = .openEnd true := if_pos hword
    rw [if_pos hword, hopen, Catalog.shownField?_getD_hosts hf hkind]
    exact hpasses _ _ (by decide)
  · have hsought : given = .text text := if_neg hword
    rw [if_neg hword, hsought, hpasses _ _ (by simp), Field.read_searched hf]
    by_cases hnameless : f.Nameless inventory host
    · simp [hnameless, Value.HasText]
    · simp only [if_neg hnameless]
      split
      · rfl
      · rfl

/-- After any list of fields, a text in quotes is searched for in the cell that is shown for a
stored field of a host, apart from the three exceptions. -/
theorem selects_search_hosts_iff {shown : String} (hshown : Catalog.hosts.Lists shown)
    (hf : f ∈ Catalog.hosts.storedFields) {quote : Char} (hquote : Token.isQuote quote = true)
    {text : String} (hinside : quote ∉ text.toList) (hspaces : ¬"%20".toList <:+: text.toList)
    (inventory : Inventory) :
    let literal := String.ofList (quote :: text.toList ++ [quote])
    ∃ within ahead,
      ofSource Catalog.hosts inventory
        (shown ++ " where " ++ (f.token ++ " " ++ "=~" ++ " " ++ literal)) = .ok within ∧
      ofSource Catalog.hosts inventory
        (shown ++ " where " ++ (f.token ++ " " ++ "=*" ++ " " ++ literal)) = .ok ahead ∧
      ∀ host,
        (within.selects inventory host = true ↔ f.Finds (· <:+: ·) inventory host text) ∧
        (ahead.selects inventory host = true ↔ f.Finds (· <+: ·) inventory host text) := by
  intro literal
  have hliteral : Query.Literal literal text := by
    have hquoted : Query.Literal literal (Query.decodeValue text) := .quoted hquote hinside
    rwa [Query.decodeValue_eq_self hspaces] at hquoted
  have hcontains : Operator.contains.test? f.kind = some .contains := rfl
  have hstartsWith : Operator.startsWith.test? f.kind = some .startsWith := rfl
  obtain ⟨within, hwithin, hfinds⟩ := exists_ofSource_search hshown hf inventory hcontains
    (.inl rfl) hliteral fun _ _ hgiven ↦ Value.passes_contains_iff hgiven
  obtain ⟨ahead, hahead, hfinds'⟩ := exists_ofSource_search hshown hf inventory hstartsWith
    (.inr rfl) hliteral fun _ _ hgiven ↦ Value.passes_startsWith_iff hgiven
  exact ⟨within, ahead, hwithin, hahead, fun host ↦ ⟨hfinds host, hfinds' host⟩⟩

end Plan

/-! ## Names and open ends -/

namespace Search

def host : Record :=
  .ofList 1 [("fqdn", .text "a.test"), ("architecture", .int 1),
    ("reserved_until", .text "9999-12-31T23:59:59.999999")]

end Search

open Search Catalog.Hosts in
/-- The name of an architecture is found in any case. -/
theorem Plan.selects_search_hosts_iff_of_arch :
    arch ∈ Catalog.hosts.storedFields ∧
    ∃ within ahead,
      ofSource Catalog.hosts architectures "fqdn where arch =~ 'X86'" = .ok within ∧
      ofSource Catalog.hosts architectures "fqdn where arch =* 'X86'" = .ok ahead ∧
      within.selects architectures host = true ∧ ahead.selects architectures host = true := by
  have hspaces : ¬"%20".toList <:+: "X86".toList := by decide
  have hcell : arch.cell architectures host = .text "x86_64" := by decide +kernel
  have hfinds {relation : List Char → List Char → Prop}
      (hrelation : relation (Text.lower "X86".toList) (Text.lower "x86_64".toList)) :
      arch.Finds relation architectures host "X86" := by
    unfold Field.Finds
    rw [if_neg (by decide), if_neg (by decide +kernel), if_neg (by decide +kernel), hcell]
    exact ⟨by decide, hrelation⟩
  obtain ⟨within, ahead, hwithin, hahead, hall⟩ := selects_search_hosts_iff Catalog.lists_fqdn
    arch_mem (by decide : Token.isQuote '\x27' = true) (by decide) hspaces architectures
  exact ⟨arch_mem, within, ahead, hwithin, hahead, (hall host).1.2 (hfinds (by decide +kernel)),
    (hall host).2.2 (hfinds (by decide +kernel))⟩

open Search Catalog.Hosts in
/-- An open end is shown as a word and not found by it. -/
theorem Plan.selects_search_openEnd :
    reservedUntil ∈ Catalog.hosts.storedFields ∧
    (reservedUntil.cell .empty host).HasText (· <:+: ·) "inf" ∧
    ∃ within, ofSource Catalog.hosts .empty "fqdn where reserved_until =~ 'inf'" = .ok within ∧
      within.selects .empty host = false := by
  have hcell : reservedUntil.cell .empty host = .text "infinite" := by decide +kernel
  have hshown : (reservedUntil.cell .empty host).HasText (· <:+: ·) "inf" := by
    rw [hcell]
    exact ⟨by decide, by decide +kernel⟩
  have hplan : (ofSource Catalog.hosts .empty "fqdn where reserved_until =~ 'inf'").toOption.map
      (·.selects .empty host) = some false := by decide +kernel
  exact ⟨reservedUntil_mem, hshown, exists_ok_of_toOption_map hplan⟩

end InventoryQuery
