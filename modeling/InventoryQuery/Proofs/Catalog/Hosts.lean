import InventoryQuery.Proofs.Catalog.Coherence
import InventoryQuery.Proofs.Query.Written

/-!
# The stored fields of hosts

What the catalog of hosts makes sure of: every stored field is found by its token, which may be
written as it is, and only references are entered and shown by names.
-/

namespace InventoryQuery

namespace FieldTable

theorem mem_foldl_insert {fields : List Field} {table : FieldTable} {f : Field}
    (h : f ∈ (fields.foldl insert table).fields) : f ∈ table.fields ∨ f ∈ fields := by
  induction fields generalizing table with
  | nil => exact .inl h
  | cons g rest ih =>
    rcases ih h with hmem | hmem
    · rcases mem_place hmem with rfl | hmem
      · exact .inr List.mem_cons_self
      · exact .inl hmem
    · exact .inr (List.mem_cons_of_mem g hmem)

/-- Nothing is in a table that was not put into it. -/
theorem mem_of_mem_ofList {fields : List Field} {f : Field} (h : f ∈ (ofList fields).fields) :
    f ∈ fields := (mem_foldl_insert h).resolve_left List.not_mem_nil

end FieldTable

namespace Catalog

variable {f : Field}

/-- A field of the table itself is found by its token unless an alias has the same one. -/
theorem resolve?_of_mem_fields {c : Catalog} (hf : f ∈ c.fields.fields)
    (haliases : ∀ g ∈ c.aliases.fields, g.token ≠ f.token) : c.resolve? f.token = some f := by
  have hnone : c.aliases.find? f.token = none :=
    List.find?_eq_none.2 fun g hg ↦ by simpa using haliases g hg
  unfold resolve?
  rw [hnone, FieldTable.find?_eq_some_iff.2 ⟨hf, rfl⟩]
  rfl

theorem storedFields_hosts_cases (hf : f ∈ hosts.storedFields) :
    f ∈ hosts.fields.fields ∧ f ∈ Hosts.fields ∨
      f ∈ hosts.aliases.fields ∧ f ∈ Hosts.aliases := by
  obtain ⟨hmem, hstored⟩ := List.mem_filter.1 hf
  have hcomputed : ∀ g ∈ Hosts.computed, g.isComputed = true := by decide
  simp only [allFields, List.mem_append] at hmem
  rcases hmem with (hmem | hmem) | hmem
  · exact .inl ⟨hmem, FieldTable.mem_of_mem_ofList hmem⟩
  · exact .inr ⟨hmem, FieldTable.mem_of_mem_ofList hmem⟩
  · simp [hcomputed f (FieldTable.mem_of_mem_ofList hmem)] at hstored

theorem resolve?_hosts (hf : f ∈ hosts.storedFields) : hosts.resolve? f.token = some f := by
  have hapart : ∀ f ∈ Hosts.fields, ∀ g ∈ Hosts.aliases, g.token ≠ f.token := by decide
  rcases storedFields_hosts_cases hf with ⟨hmem, hwritten⟩ | ⟨hmem, -⟩
  · exact resolve?_of_mem_fields hmem fun g hg ↦
      hapart f hwritten g (FieldTable.mem_of_mem_ofList hg)
  · exact resolve?_of_mem_aliases hmem

theorem mem_written_hosts (hf : f ∈ hosts.storedFields) : f ∈ Hosts.fields ++ Hosts.aliases :=
  List.mem_append.2 ((storedFields_hosts_cases hf).imp And.right And.right)

theorem isName_hosts (hf : f ∈ hosts.storedFields) : Query.IsName f.token := by
  have hall : ∀ f ∈ Hosts.fields ++ Hosts.aliases, f.token.toList ≠ [] ∧
      f.token.toList.all Token.isWordChar = true ∧ f.token.toList.head? ≠ some '!' ∧
      Text.equalIgnoringAsciiCase f.token Token.whereWord = false ∧
      Connective.ofWord? f.token = none ∧ Operator.ofSymbol? f.token = none := by decide
  obtain ⟨hnonempty, hword, hunmarked, hwhere, hconnective, hoperator⟩ :=
    hall f (mem_written_hosts hf)
  exact ⟨hnonempty, List.all_eq_true.1 hword, hunmarked, hwhere, hconnective, hoperator⟩

/-- A stored field that a query can name by its token. -/
structure Offers (c : Catalog) (f : Field) : Prop where
  isName : Query.IsName f.token
  resolves : c.resolve? f.token = some f
  stored : f.isComputed = false

theorem offers_hosts (hf : f ∈ hosts.storedFields) : hosts.Offers f :=
  ⟨isName_hosts hf, resolve?_hosts hf, isComputed_of_mem_storedFields hf⟩

/-- References are stored on the host itself, and names are looked up where they are shown. -/
theorem reference_hosts (hf : f ∈ hosts.storedFields) (h : f.kind = .reference) :
    f.path = [] ∧ ∃ table key, f.lookup = some ⟨table, key⟩ ∧
      f.rendering = some (.name table key) := by
  have hall : ∀ f ∈ Hosts.fields ++ Hosts.aliases, f.kind = .reference →
      f.path = [] ∧ f.lookup.isSome = true ∧
        f.rendering = f.lookup.map fun lookup ↦ .name lookup.table lookup.key := by decide
  obtain ⟨hpath, hsome, hrendering⟩ := hall f (mem_written_hosts hf) h
  obtain ⟨lookup, hlookup⟩ := Option.isSome_iff_exists.1 hsome
  exact ⟨hpath, lookup.table, lookup.key, hlookup, by rw [hrendering, hlookup, Option.map_some]⟩

theorem plain_hosts (hf : f ∈ hosts.storedFields) (h : f.kind ≠ .reference) :
    f.lookup = none ∧ (f.rendering = none ∨ f.rendering = some .openEnd ∧ f.kind = .datetime) := by
  have hall : ∀ f ∈ Hosts.fields ++ Hosts.aliases, f.kind ≠ .reference → f.lookup = none ∧
      (f.rendering = none ∨ f.rendering = some .openEnd ∧ f.kind = .datetime) := by decide
  exact hall f (mem_written_hosts hf) h

/-- Without a name to show, what is shown for a field is the field itself. -/
theorem shownField?_getD_hosts (hf : f ∈ hosts.storedFields) (h : f.kind ≠ .reference) :
    f.shownField?.getD f = f := by
  obtain ⟨-, hrendering⟩ := plain_hosts hf h
  rcases hrendering with hrendering | ⟨hrendering, -⟩
  · simp [Field.shownField?, hrendering]
  · simp [Field.shownField?, hrendering]

/-- What is read for the id is the id. -/
theorem id_hosts (hf : f ∈ hosts.storedFields) (h : f.token = Record.idName) :
    f = (Field.stored Record.idName .numeric).labelled "ID" := by
  have hall : ∀ f ∈ Hosts.fields ++ Hosts.aliases, f.token = Record.idName →
      f = (Field.stored Record.idName .numeric).labelled "ID" := by decide
  exact hall f (mem_written_hosts hf) h

namespace Hosts

/-! ## Some of the fields -/

def hostId : Field := (Field.stored Record.idName .numeric).labelled "ID"

def comment : Field := .stored "comment" .longText

def reservedUntil : Field :=
  { (Field.stored "reserved_until" .datetime).orNull with rendering := some .openEnd }

def arch : Field :=
  ((Field.reference "architecture" "architectures" "name").renamed "arch").labelled "Architecture"

theorem hostId_mem : hostId ∈ hosts.storedFields := by decide

theorem comment_mem : comment ∈ hosts.storedFields := by decide

theorem reservedUntil_mem : reservedUntil ∈ hosts.storedFields := by decide

theorem arch_mem : arch ∈ hosts.storedFields := by decide

/-- An inventory of nothing but an architecture. -/
def architectures : Inventory :=
  .ofTables [("architectures", [.ofList 1 [("name", .text "x86_64")]])]

end Hosts

end Catalog

end InventoryQuery
