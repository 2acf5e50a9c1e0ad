import InventoryQuery.Proofs.Answer.Run
import InventoryQuery.Proofs.Inventory.Agreement

/-!
# Answers that agree

A query reads an inventory only through the fields of its catalog, while it is compiled and while it
is answered.  A table that none of them reads has no influence on an answer, nor on an error, beyond
the records in scope.
-/

namespace InventoryQuery

/-- None of the fields reads anything from the table, apart from the record itself. -/
def Catalog.Avoids (c : Catalog) (hidden : String) : Prop :=
  ∀ f ∈ c.allFields, hidden ∉ f.tables

theorem Catalog.avoids_hosts : Catalog.hosts.Avoids hostsTable := by
  unfold Avoids
  decide

variable {c : Catalog} {hidden : String} {first second : Inventory}

theorem Catalog.Avoids.compared (hc : c.Avoids hidden) {f : Field} (hf : f ∈ c.comparedFields) :
    hidden ∉ f.tables := by
  rcases List.mem_append.1 hf with hf | hf
  · exact hc f (List.mem_of_mem_filter hf)
  · obtain ⟨g, hg, hshown⟩ := List.mem_filterMap.1 hf
    intro hmem
    exact hc g (List.mem_of_mem_filter hg) (Field.tables_shownField? hshown hmem)

/-! ## Compiling -/

namespace Plan

theorem givenValue_agree (h : first.AgreeBut hidden second) {f : Field} (hf : hidden ∉ f.tables)
    (test : Test) (literal : Located String) :
    givenValue first f test literal = givenValue second f test literal := by
  unfold givenValue
  cases hlookup : f.lookup with
  | none => rfl
  | some lookup =>
    have hvalue := Field.value_lookup_agree h hf hlookup f.token literal.value
    simp only [hvalue]

theorem block_agree (h : first.AgreeBut hidden second) (hc : c.Avoids hidden) (clause : Clause) :
    block c first clause = block c second clause := by
  unfold block
  cases hresolve : c.resolve clause.field with
  | error e => rfl
  | ok f =>
    have hf : hidden ∉ f.tables :=
      hc f (Catalog.mem_allFields_of_resolve? (Catalog.resolve_eq_ok_iff.1 hresolve))
    cases clause with
    | bare field negated => rfl
    | comparison field op value => simp only [bind, Except.bind, givenValue_agree h hf]

theorem ofQuery_agree (h : first.AgreeBut hidden second) (hc : c.Avoids hidden) (q : Query) :
    ofQuery c first q = ofQuery c second q := by
  have hblock : block c first = block c second := by
    funext clause
    exact block_agree h hc clause
  unfold ofQuery
  rw [hblock]

theorem ofSource_agree (h : first.AgreeBut hidden second) (hc : c.Avoids hidden)
    (source : String) : ofSource c first source = ofSource c second source := by
  have hquery : ofQuery c first = ofQuery c second := by
    funext q
    exact ofQuery_agree h hc q
  unfold ofSource
  rw [hquery]

/-! ## Answering -/

variable {p : Plan}

theorem Fits.reading_agree (hp : p.Fits c) (h : first.AgreeBut hidden second)
    (hc : c.Avoids hidden) (record : Record) {condition : Condition}
    (hmem : condition ∈ p.conditions) :
    p.reading first record condition.field = p.reading second record condition.field := by
  unfold reading
  cases hmeasured : p.measured? condition.field with
  | some g =>
    obtain ⟨column, hcolumn, rfl⟩ := List.mem_map.1 (List.mem_of_find?_eq_some hmeasured)
    obtain ⟨f, hf, rfl⟩ := hp.lengths column hcolumn
    have hread := Field.read_agree h (hc.compared (Catalog.mem_comparedFields hf)) record
    exact congrArg Value.charLength hread
  | none =>
    rcases hp.conditions condition hmem with hcompared | ⟨column, -, hfield⟩
    · exact Field.read_agree h (hc.compared hcompared) record
    · have hnone : hidden ∉ condition.field.tables := by
        rw [hfield, Field.tables_lengthField]
        exact List.not_mem_nil
      exact Field.read_agree h hnone record

theorem Fits.accepts_agree (hp : p.Fits c) (h : first.AgreeBut hidden second)
    (hc : c.Avoids hidden) (record : Record) : p.accepts first record = p.accepts second record := by
  apply truth_congr
  intro condition hmem
  unfold judges
  rw [hp.reading_agree h hc record hmem]

end Plan

theorem Field.cell_agree {f : Field} (h : first.AgreeBut hidden second) (hf : hidden ∉ f.tables)
    (record : Record) : f.cell first record = f.cell second record := by
  have hraw : f.raw first record = f.raw second record := by
    unfold raw
    cases hcomputation : f.computation with
    | some computation => exact computation_agree h hf hcomputation record.id
    | none => simp only [read_agree h hf record]
  unfold cell
  rw [hraw]
  cases hrendering : f.rendering with
  | none => rfl
  | some rendering => simp only [shown_agree h hf hrendering]

namespace Scope

variable {scope other : Scope} {p : Plan}

theorem survivors_agree (hrecords : scope.records = other.records)
    (h : scope.inventory.AgreeBut hidden other.inventory) (hc : c.Avoids hidden) (hp : p.Fits c) :
    scope.survivors p = other.survivors p := by
  unfold survivors
  rw [hrecords]
  exact List.filter_congr fun record _ ↦ hp.accepts_agree h hc record

theorem cells_agree (h : scope.inventory.AgreeBut hidden other.inventory) (hc : c.Avoids hidden)
    (hp : p.Fits c) : scope.cells p = other.cells p := by
  funext record
  unfold cells
  apply List.map_congr_left
  intro f hf
  obtain ⟨token, hresolve⟩ := hp.fields f hf
  rw [Field.cell_agree h (hc f (Catalog.mem_allFields_of_resolve? hresolve)) record]

/-- Hosts that are not in scope have no influence on the answer to a query, nor on its error. -/
theorem run_hosts_agree {scope other : Scope} (hrecords : scope.records = other.records)
    (h : ∀ table, table ≠ hostsTable →
      scope.inventory.records table = other.inventory.records table) (source : String) :
    scope.run Catalog.hosts source = other.run Catalog.hosts source := by
  have hagree : scope.inventory.AgreeBut hostsTable other.inventory := h
  have hsource := Plan.ofSource_agree hagree Catalog.avoids_hosts source
  unfold run
  rw [← hsource]
  cases hplan : Plan.ofSource Catalog.hosts scope.inventory source with
  | error e => rw [error_bind, error_bind]
  | ok p =>
    have hp := Plan.ofSource_fits hplan
    have hanswer : p.answer scope = p.answer other := by
      rw [hp.answer_eq Catalog.coherent_hosts, hp.answer_eq Catalog.coherent_hosts,
        survivors_agree hrecords hagree Catalog.avoids_hosts hp,
        cells_agree hagree Catalog.avoids_hosts hp]
    rw [ok_bind, ok_bind, hanswer]

/-! ## A host beside the scope -/

/-- Some hosts, and one architecture that they may refer to. -/
def inventoryOf (hosts : List Record) : Inventory :=
  .ofTables ([("architectures", [.ofList 1 [("name", .text "x86_64")]])] ++ [(hostsTable, hosts)])

def activeHost : Record := .ofList 1 [("fqdn", .text "a.test"), ("architecture", .int 1)]

def inactiveHost : Record := .ofList 2 [("active", .bool false)]

theorem records_inventoryOf (hosts : List Record) :
    (inventoryOf hosts).records hostsTable = hosts := by
  unfold inventoryOf
  rw [Inventory.records_ofTables_append, if_pos rfl]

theorem records_inventoryOf_of_ne (hosts others : List Record) {table : String}
    (htable : table ≠ hostsTable) :
    (inventoryOf hosts).records table = (inventoryOf others).records table := by
  unfold inventoryOf
  rw [Inventory.records_ofTables_append, Inventory.records_ofTables_append,
    if_neg (Ne.symm htable), if_neg (Ne.symm htable)]

/-- The one inventory has an inactive host that the other has not. -/
theorem run_hosts_agree_of_inactiveHost :
    (inventoryOf [activeHost, inactiveHost]).records hostsTable = [activeHost, inactiveHost] ∧
      (inventoryOf [activeHost]).records hostsTable = [activeHost] ∧
      (Scope.hosts (inventoryOf [activeHost, inactiveHost]) ⟨false, false⟩).run Catalog.hosts
          "fqdn, arch where arch =~ x86" =
        (Scope.hosts (inventoryOf [activeHost]) ⟨false, false⟩).run Catalog.hosts
          "fqdn, arch where arch =~ x86" := by
  have hactive : ScopeOptions.admits ⟨false, false⟩ activeHost = true := by decide
  have hinactive : ScopeOptions.admits ⟨false, false⟩ inactiveHost = false := by decide
  refine ⟨records_inventoryOf _, records_inventoryOf _, run_hosts_agree ?_ ?_ _⟩
  · unfold Scope.hosts filtered
    simp only [records_inventoryOf, List.filter_cons, hactive, hinactive, Bool.false_eq_true,
      if_true, if_false]
  · intro table htable
    exact records_inventoryOf_of_ne _ _ htable

end Scope

end InventoryQuery
