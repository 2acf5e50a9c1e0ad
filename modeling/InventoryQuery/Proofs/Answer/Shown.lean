import InventoryQuery.Proofs.Answer.Difference
import InventoryQuery.Proofs.Answer.Search
import InventoryQuery.Proofs.Query.RoundTrip
import InventoryQuery.Proofs.Value.ReadBack

/-!
# Asking for what is shown

A host is found by the text that is shown for one of its fields when that text is read as the value
that is stored.  A value of another kind than the field, a fraction of a second, a year with more
than four digits before a zone and a name that is that of an earlier record too are lost on the way.
-/

namespace InventoryQuery

variable {inventory : Inventory} {record : Record} {f : Field}

/-- The text that is shown for a field of a record stands for the stored value. -/
def Field.Recalls (inventory : Inventory) (record : Record) (f : Field) : Prop :=
  match f.lookup with
  | some lookup => ∃ id,
      inventory.idOf? lookup.table lookup.key (f.cell inventory record).toText = some id ∧
        (f.read inventory record).compare (.int id) = some .eq
  | none => f.ShowsOpenEnd inventory record ∨ (f.read inventory record).ReadsBack f.kind

/-! ## The word for an open end -/

/-- No text of a point in time is the word for an open end. -/
theorem Value.IsMoment.not_openEndWord {v : Value} (h : v.IsMoment) :
    Text.equalIgnoringAsciiCase v.toText openEndWord = false := by
  have hspace (t : Timestamp) : ' ' ∈ t.toText :=
    List.mem_append_right _ List.mem_cons_self
  have hmem : ' ' ∈ v.toText.toList := by
    cases v with
    | timestamp t =>
      rw [toText, String.toList_ofList]
      exact hspace t
    | instant t =>
      rw [toText, String.toList_ofList]
      exact List.mem_append_left _ (hspace t)
    | _ => exact h.elim
  exact Query.equalIgnoringAsciiCase_eq_false_of_mem hmem (by decide) (by decide)

theorem Field.ShowsOpenEnd.kind_eq (hf : f ∈ Catalog.hosts.storedFields)
    (h : f.ShowsOpenEnd inventory record) : f.kind = .datetime := by
  by_cases hkind : f.kind = .reference
  · obtain ⟨-, table, key, -, hrendering⟩ := Catalog.reference_hosts hf hkind
    simp [ShowsOpenEnd, hrendering] at h
  · rcases (Catalog.plain_hosts hf hkind).2 with hrendering | ⟨-, hdatetime⟩
    · simp [ShowsOpenEnd, hrendering] at h
    · exact hdatetime

theorem Field.ShowsOpenEnd.cell_eq (hf : f ∈ Catalog.hosts.storedFields)
    (h : f.ShowsOpenEnd inventory record) : f.cell inventory record = .text openEndWord := by
  obtain ⟨hrendering, hopen⟩ := h
  have hnull : (f.read inventory record).isNull = false := by
    cases hread : f.read inventory record with
    | null => simp [hread, Value.isOpenEnd] at hopen
    | _ => rfl
  rw [cell, raw_hosts hf]
  simp [hrendering, hnull, Rendering.shown, hopen]

/-! ## Values by their texts -/

namespace Field

/-- A name stands for the id of the first record that has it. -/
theorem exists_given_iff_of_reference (hf : f ∈ Catalog.hosts.storedFields)
    (hkind : f.kind = .reference) {test : Test} (htest : Operator.equal.test? f.kind = some test) :
    (∃ given, f.Given inventory test (f.cell inventory record).toText given ∧
        (f.read inventory record).passes test given = true) ↔ f.Recalls inventory record := by
  obtain ⟨-, table, key, hlookup, -⟩ := Catalog.reference_hosts hf hkind
  have hword : ¬f.TakesForOpenEnd (f.cell inventory record).toText := by
    simp [TakesForOpenEnd, hkind]
  obtain rfl : .exact = test := by
    rw [hkind] at htest
    exact Option.some.inj htest
  unfold Given Recalls
  simp only [if_neg hword, hlookup, NameLookup.value]
  cases inventory.idOf? table key (f.cell inventory record).toText with
  | none => simp
  | some id => simp [Value.passes_exact_iff_compare]

/-- The word for an open end stands for the open end that is shown as it. -/
theorem exists_given_of_openEnd (hf : f ∈ Catalog.hosts.storedFields)
    (h : f.ShowsOpenEnd inventory record) {test : Test}
    (htest : Operator.equal.test? f.kind = some test) :
    ∃ given, f.Given inventory test (f.cell inventory record).toText given ∧
      (f.read inventory record).passes test given = true := by
  have hkind := h.kind_eq hf
  obtain rfl : .exact = test := by
    rw [hkind] at htest
    exact Option.some.inj htest
  have hword : f.TakesForOpenEnd (f.cell inventory record).toText := by
    rw [h.cell_eq hf]
    exact ⟨hkind, beq_self_eq_true _⟩
  refine ⟨.openEnd false, ?_, ?_⟩
  · rw [Given, if_pos hword]
    rfl
  · have hopen := h.2
    cases hread : f.read inventory record with
    | timestamp t | instant t =>
      rw [hread] at hopen
      obtain rfl : t = .openEnd := of_decide_eq_true hopen
      rfl
    | _ => simp [hread, Value.isOpenEnd] at hopen

theorem exists_given_iff (hf : f ∈ Catalog.hosts.storedFields) {test : Test}
    (htest : Operator.equal.test? f.kind = some test) :
    (∃ given, f.Given inventory test (f.cell inventory record).toText given ∧
        (f.read inventory record).passes test given = true) ↔ f.Recalls inventory record := by
  by_cases hkind : f.kind = .reference
  · exact exists_given_iff_of_reference hf hkind htest
  have hlookup := (Catalog.plain_hosts hf hkind).1
  by_cases hopen : f.ShowsOpenEnd inventory record
  · simp only [exists_given_of_openEnd hf hopen htest, true_iff]
    rw [Recalls, hlookup]
    exact .inl hopen
  have hrecalls : f.Recalls inventory record ↔ (f.read inventory record).ReadsBack f.kind := by
    simp only [Recalls, hlookup, hopen, false_or]
  rw [hrecalls, ← read_eq_cell_of_ne_reference hf hkind hopen]
  generalize f.read inventory record = v
  have htext : ¬(test = .contains ∨ test = .startsWith) := by
    rcases Value.equal_or_exact_of_test? htest with rfl | rfl
    · decide
    · decide
  by_cases hword : f.TakesForOpenEnd v.toText
  · -- What is shown as the word and is no open end is a text.
    have hmoment : ¬v.IsMoment := by
      intro hmoment
      simp [TakesForOpenEnd, hmoment.not_openEndWord] at hword
    have hdatetime := hword.1
    constructor
    · rintro ⟨given, hgiven, hpasses⟩
      have hgivenMoment := hgiven.isMoment hdatetime hlookup htext
      obtain rfl : .exact = test := by
        rw [hdatetime] at htest
        exact Option.some.inj htest
      have hnull : given ≠ .null := by
        rintro rfl
        exact hgivenMoment
      have hcompare := (Value.passes_exact_iff_compare hnull).1 hpasses
      exact absurd (Value.isMoment_of_compare hgivenMoment hcompare) hmoment
    · intro hback
      rw [hdatetime] at hback
      exact absurd hback.isMoment hmoment
  · rw [← Value.exists_ofLiteral_iff hkind htest]
    simp only [Given, if_neg hword, if_neg htext, hlookup]

end Field

/-! ## Queries -/

theorem Catalog.Shows.ofSource {c : Catalog} {shown : String} {fields : List Field}
    (h : c.Shows shown fields) (inventory : Inventory) :
    Plan.ofSource c inventory shown = .ok ⟨fields, [], [], []⟩ := by
  obtain ⟨tokens, span, hread, hfields⟩ := h
  rw [Plan.ofSource_eq_ok_iff_of_read hread]
  exact Plan.ofQuery_none_eq_ok_iff.2 ⟨fields, hfields, rfl⟩

namespace Catalog

theorem isListed_hosts (hf : f ∈ hosts.storedFields) : Query.IsListed f.token := by
  have hall : ∀ f ∈ Hosts.fields ++ Hosts.aliases,
      f.token.toList.all (fun c ↦ !Text.isBlank c && c != ',') = true := by decide
  have hplain := List.all_eq_true.1 (hall f (mem_written_hosts hf))
  have hname := isName_hosts hf
  exact ⟨hname.nonempty, fun c hc ↦ by simpa using (Bool.and_eq_true_iff.1 (hplain c hc)).1,
    fun hc ↦ by simpa using hplain ',' hc, fun c hc ↦ (Token.isWordChar_iff.1 (hname.word c hc)).2,
    hname.noWhere⟩

/-- A list of tokens is a query for their fields. -/
theorem shows_hosts {shown : String} (fields : List Field) (hsome : fields ≠ [])
    (hfields : ∀ f ∈ fields, f ∈ hosts.storedFields)
    (hshown : shown.toList = (Query.listText (fields.map (·.token))).toList) :
    hosts.Shows shown fields := by
  have hnames : ∀ name ∈ fields.map (·.token), Query.IsListed name :=
    List.forall_mem_map.2 fun f hf ↦ isListed_hosts (hfields f hf)
  obtain ⟨tokens, span, hread, hvalues⟩ := Query.read_listText (by simpa using hsome) hnames hshown
  refine ⟨tokens, span, hread, ?_⟩
  have hresolved : List.Forall₂ (fun token f ↦ hosts.resolve? token = some f)
      (tokens.map (·.value)) fields := by
    rw [hvalues, List.forall₂_map_left_iff, List.forall₂_same]
    exact fun f hf ↦ resolve?_hosts (hfields f hf)
  exact List.forall₂_map_left_iff.1 hresolved

theorem shows_hostId : hosts.Shows "id" [Hosts.hostId] :=
  shows_hosts [Hosts.hostId] (List.cons_ne_nil _ _) (List.forall_mem_singleton.2 Hosts.hostId_mem)
    rfl

theorem shows_hostId_and (hf : f ∈ hosts.storedFields) :
    hosts.Shows ("id," ++ f.token) [Hosts.hostId, f] := by
  refine shows_hosts [Hosts.hostId, f] (List.cons_ne_nil _ _) ?_ ?_
  · exact List.forall_mem_cons.2 ⟨Hosts.hostId_mem, List.forall_mem_singleton.2 hf⟩
  · simp only [List.map_cons, List.map_nil, Query.listText_cons, Query.listText_singleton,
      String.toList_append]
    rfl

end Catalog

namespace Scope

variable {scope : Scope} {host : Record}

/-- A row with nothing but the id is that of the record with the id. -/
theorem mem_map_cells_iff {p : Plan} (hp : p.Fits Catalog.hosts)
    (hfields : p.fields = [Catalog.Hosts.hostId]) (hids : (scope.records.map (·.id)).Nodup)
    (hhost : host ∈ scope.records) :
    [("id", .int host.id)] ∈ (scope.survivors p).map (scope.cells p) ↔
      p.selects scope.inventory host = true := by
  have hcells (record : Record) : scope.cells p record = [("id", .int record.id)] := by
    rw [cells, hfields]
    rfl
  simp only [List.mem_map, hcells]
  constructor
  · rintro ⟨record, hmem, hrow⟩
    obtain ⟨hrecord, hselects⟩ := (hp.mem_survivors_iff Catalog.coherent_hosts hids).1 hmem
    have hid : record.id = host.id := by simpa using hrow
    rwa [List.inj_on_of_nodup_map hids hrecord hhost hid] at hselects
  · intro hselects
    exact ⟨host, (hp.mem_survivors_iff Catalog.coherent_hosts hids).2 ⟨hhost, hselects⟩, rfl⟩

/-- Without a condition every host is shown. -/
theorem exists_run_listed (hids : (scope.records.map (·.id)).Nodup) (hhost : host ∈ scope.records)
    (hf : f ∈ Catalog.hosts.storedFields) :
    ∃ answer, scope.run Catalog.hosts ("id," ++ f.token) = .ok answer ∧
      [("id", .int host.id), (f.token, f.cell scope.inventory host)] ∈ answer.rows := by
  have hplan := (Catalog.shows_hostId_and hf).ofSource scope.inventory
  have hmem := ((Plan.ofSource_fits hplan).mem_survivors_iff Catalog.coherent_hosts hids).2
    ⟨hhost, rfl⟩
  refine ⟨_, (run_eq_ok_iff Catalog.coherent_hosts).2
    ⟨_, hplan, List.ne_nil_of_mem hmem, rfl⟩, ?_⟩
  exact List.mem_map.2 ⟨host, hmem, rfl⟩

/-- A host is in the answer when the literal stands for a value that is equal to the stored one. -/
theorem exists_run_comparison_iff (hids : (scope.records.map (·.id)).Nodup)
    (hhost : host ∈ scope.records) (hf : f ∈ Catalog.hosts.storedFields) {literal text : String}
    (hliteral : Query.Literal literal text) {test : Test}
    (htest : Operator.equal.test? f.kind = some test) :
    (∃ answer, scope.run Catalog.hosts ("id" ++ " where " ++ (f.token ++ " " ++ "=" ++ " " ++
        literal)) = .ok answer ∧ [("id", .int host.id)] ∈ answer.rows) ↔
      ∃ given, f.Given scope.inventory test text given ∧
        (f.read scope.inventory host).passes test given = true := by
  let plan (given : Value) := Plan.ofBlocks [Catalog.Hosts.hostId] (Plan.comparison f test given) []
  have hsource {p : Plan} : Plan.ofSource Catalog.hosts scope.inventory
      ("id" ++ " where " ++ (f.token ++ " " ++ "=" ++ " " ++ literal)) = .ok p ↔
        ∃ given, f.Given scope.inventory test text given ∧ p = plan given := by
    have hoffers := Catalog.offers_hosts hf
    have hcompiles : Plan.ofSource Catalog.hosts scope.inventory
        ("id" ++ " where " ++ (f.token ++ " " ++ Operator.equal.symbol ++ " " ++ literal)) =
          .ok p ↔ _ := Catalog.shows_hostId.ofSource_comparison_eq_ok_iff hoffers hliteral
    refine hcompiles.trans ⟨?_, fun ⟨given, h⟩ ↦ ⟨test, given, htest, h⟩⟩
    rintro ⟨test', given, htest', h⟩
    obtain rfl : test = test' := Option.some.inj (htest.symm.trans htest')
    exact ⟨given, h⟩
  have hrow {given : Value} (hp : (plan given).Fits Catalog.hosts) :
      [("id", .int host.id)] ∈ (scope.survivors (plan given)).map (scope.cells (plan given)) ↔
        (f.read scope.inventory host).passes test given = true := by
    have hequal := Value.equal_or_exact_of_test? htest
    rw [mem_map_cells_iff hp rfl hids hhost,
      hp.selects_comparison_of_other Catalog.coherent_hosts hf (by grind), if_neg (by grind)]
  constructor
  · rintro ⟨answer, hrun, hmem⟩
    obtain ⟨p, hplan, -, rfl⟩ := (run_eq_ok_iff Catalog.coherent_hosts).1 hrun
    obtain ⟨given, hgiven, rfl⟩ := hsource.1 hplan
    exact ⟨given, hgiven, (hrow (Plan.ofSource_fits hplan)).1 hmem⟩
  · rintro ⟨given, hgiven, hpasses⟩
    have hplan := hsource.2 ⟨given, hgiven, rfl⟩
    have hmem := (hrow (Plan.ofSource_fits hplan)).2 hpasses
    have hsome : scope.survivors (plan given) ≠ [] := by
      intro hnone
      simp [hnone] at hmem
    exact ⟨_, (run_eq_ok_iff Catalog.coherent_hosts).2 ⟨_, hplan, hsome, rfl⟩, hmem⟩

/-- A host is found by the text that is shown for one of its fields exactly when that text stands
for the stored value. -/
theorem run_shown_iff (hids : (scope.records.map (·.id)).Nodup) (hhost : host ∈ scope.records)
    (hf : f ∈ Catalog.hosts.storedFields) :
    let shown := (f.cell scope.inventory host).toText
    (∃ all, scope.run Catalog.hosts ("id," ++ f.token) = .ok all ∧
      [("id", .int host.id), (f.token, f.cell scope.inventory host)] ∈ all.rows) ∧
    ('\x22' ∉ shown.toList → ¬"%20".toList <:+: shown.toList →
      ((∃ answer, scope.run Catalog.hosts ("id where " ++ f.token ++ " = \x22" ++ shown ++ "\x22") =
          .ok answer ∧ [("id", .int host.id)] ∈ answer.rows) ↔
        f.Recalls scope.inventory host)) := by
  intro shown
  refine ⟨exists_run_listed hids hhost hf, fun hquotes hspaces ↦ ?_⟩
  have hliteral : Query.Literal (String.ofList ('\x22' :: shown.toList ++ ['\x22'])) shown := by
    have hquoted : Query.Literal (String.ofList ('\x22' :: shown.toList ++ ['\x22']))
        (Query.decodeValue shown) := .quoted (by decide) hquotes
    rwa [Query.decodeValue_eq_self hspaces] at hquoted
  have hquery : "id where " ++ f.token ++ " = \x22" ++ shown ++ "\x22" =
      "id" ++ " where " ++ (f.token ++ " " ++ "=" ++ " " ++
        String.ofList ('\x22' :: shown.toList ++ ['\x22'])) := by
    simp [← String.toList_inj]
  obtain ⟨test, htest⟩ : ∃ test, Operator.equal.test? f.kind = some test := by
    cases f.kind <;> exact ⟨_, rfl⟩
  rw [hquery, exists_run_comparison_iff hids hhost hf hliteral htest, f.exists_given_iff hf htest]

end Scope

/-! ## A name, and three texts that stand for nothing stored -/

namespace Shown

def named : Scope := ⟨Catalog.Hosts.architectures, hostsTable, [Search.host]⟩

def cpuCores : Field := .stored "cpu_cores" .numeric

def reservedAt : Field := (Field.stored "reserved_at" .datetime).orNull

/-- A host with a text for a number, a fraction of a second, and the second of two architectures
that share their name. -/
def odd : Record :=
  .ofList 1 [("cpu_cores", .text "many"), ("reserved_at", .text "2024-03-01T10:20:30.5"),
    ("architecture", .int 2)]

def oddScope : Scope where
  inventory := .ofTables [("architectures", [.ofList 1 [("name", .text "arm")],
    .ofList 2 [("name", .text "arm")]])]
  table := hostsTable
  records := [odd]

end Shown

open Shown Catalog.Hosts in
theorem Scope.run_shown_iff_of_arch :
    (named.records.map (·.id)).Nodup ∧ Search.host ∈ named.records ∧
    arch ∈ Catalog.hosts.storedFields ∧
    arch.cell named.inventory Search.host = .text "x86_64" ∧
    ∃ answer, named.run Catalog.hosts "id where arch = \x22x86_64\x22" = .ok answer ∧
      [("id", .int 1)] ∈ answer.rows := by
  have hids : (named.records.map (·.id)).Nodup := by decide +kernel
  have hhost : Search.host ∈ named.records := List.mem_singleton_self _
  have hcell : arch.cell named.inventory Search.host = .text "x86_64" := by decide +kernel
  have hrecalls : arch.Recalls named.inventory Search.host := by
    refine ⟨1, ?_, by decide +kernel⟩
    rw [hcell]
    decide +kernel
  have hshown := (Scope.run_shown_iff hids hhost arch_mem).2
  rw [hcell] at hshown
  have hquotes : '\x22' ∉ "x86_64".toList := by decide
  have hspaces : ¬"%20".toList <:+: "x86_64".toList := by decide +kernel
  exact ⟨hids, hhost, arch_mem, hcell, (hshown hquotes hspaces).2 hrecalls⟩

open Shown Catalog.Hosts in
/-- What is no number is no literal for one, and what lost its fraction or is the name of another
record finds nothing. -/
theorem Scope.run_shown_finds_nothing :
    (oddScope.records.map (·.id)).Nodup ∧ odd ∈ oddScope.records ∧
    (cpuCores ∈ Catalog.hosts.storedFields ∧
      cpuCores.cell oddScope.inventory odd = .text "many" ∧
      ¬∃ answer, oddScope.run Catalog.hosts "id where cpu_cores = \x22many\x22" = .ok answer) ∧
    (reservedAt ∈ Catalog.hosts.storedFields ∧
      (reservedAt.cell oddScope.inventory odd).toText = "2024-03-01 10:20:30" ∧
      ¬∃ answer, oddScope.run Catalog.hosts
        "id where reserved_at = \x222024-03-01 10:20:30\x22" = .ok answer) ∧
    (arch ∈ Catalog.hosts.storedFields ∧ arch.cell oddScope.inventory odd = .text "arm" ∧
      ¬∃ answer, oddScope.run Catalog.hosts "id where arch = \x22arm\x22" = .ok answer) := by
  have hnone {source : String} (h : (oddScope.run Catalog.hosts source).toOption.isSome = false) :
      ¬∃ answer, oddScope.run Catalog.hosts source = .ok answer := by
    rintro ⟨answer, hrun⟩
    rw [hrun] at h
    cases h
  exact ⟨by decide +kernel, List.mem_singleton_self _,
    ⟨by decide +kernel, by decide +kernel, hnone (by decide +kernel)⟩,
    ⟨by decide +kernel, by decide +kernel, hnone (by decide +kernel)⟩,
    ⟨arch_mem, by decide +kernel, hnone (by decide +kernel)⟩⟩

end InventoryQuery
