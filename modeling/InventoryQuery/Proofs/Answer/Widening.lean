import InventoryQuery.Inventory.Document
import InventoryQuery.Proofs.Answer.Run

/-!
# Wider scopes

With more hosts in scope a query finds what it found before, in the same order, except where a host
that was let in has the id of one that comes later.  The first host with an id counts whether the
conditions are true of it or not, and so the later one is lost.
-/

namespace InventoryQuery

/-- The second options let in whatever the first do. -/
structure ScopeOptions.Within (narrow wide : ScopeOptions) : Prop where
  inactive : narrow.includeInactive = true → wide.includeInactive = true
  administrative : narrow.includeAdministrative = true → wide.includeAdministrative = true

theorem ScopeOptions.Within.admits {narrow wide : ScopeOptions} (h : narrow.Within wide)
    {host : Record} (hhost : narrow.admits host = true) : wide.admits host = true := by
  simp only [ScopeOptions.admits, Bool.and_eq_true, Bool.or_eq_true] at hhost ⊢
  exact ⟨hhost.1.imp_left h.inactive, hhost.2.imp_left h.administrative⟩

namespace Scope

variable {inventory : Inventory} {narrow wide options : ScopeOptions} {p : Plan} {host : Record}

/-- The host that counts for an id in the wide scope is one that the narrow options admit. -/
def keepsId (inventory : Inventory) (narrow wide : ScopeOptions) (id : Int64) : Bool :=
  ((hosts inventory wide).records.find? fun host ↦ host.id = id).any narrow.admits

theorem survivors_eq_filter_firstsBy (scope : Scope) (p : Plan) :
    scope.survivors p =
      (firstsBy (·.id) scope.records).filter (p.accepts scope.inventory) := by
  rw [survivors, firstsBy_eq_leadersBy]

theorem mem_records_of_mem_survivors (h : host ∈ (hosts inventory options).survivors p) :
    host ∈ inventory.records hostsTable ∧ options.admits host = true := by
  rw [survivors_eq_filter_firstsBy] at h
  exact List.mem_filter.1 (mem_of_mem_firstsBy (List.mem_of_mem_filter h))

/-- Hosts whose id is kept stay, in their order. -/
theorem filter_survivors_sublist (h : narrow.Within wide) (p : Plan) :
    (((hosts inventory narrow).survivors p).filter fun host ↦
        keepsId inventory narrow wide host.id).Sublist
      ((hosts inventory wide).survivors p) := by
  rw [survivors_eq_filter_firstsBy, survivors_eq_filter_firstsBy, List.filter_comm]
  exact (filter_firstsBy_sublist (fun _ ↦ h.admits) (inventory.records hostsTable)).filter _

theorem mem_survivors_wide_iff (h : narrow.Within wide)
    (hhost : host ∈ (hosts inventory narrow).survivors p) :
    host ∈ (hosts inventory wide).survivors p ↔ keepsId inventory narrow wide host.id = true := by
  constructor
  · intro hmem
    rw [survivors_eq_filter_firstsBy] at hmem
    have hfirst := (mem_firstsAfter_iff.1 (List.mem_of_mem_filter hmem)).2
    rw [keepsId, hfirst]
    exact (mem_records_of_mem_survivors hhost).2
  · intro hkept
    exact (filter_survivors_sublist h p).subset (List.mem_filter.2 ⟨hhost, hkept⟩)

/-- An id of one host only is kept. -/
theorem keepsId_of_nodup (h : narrow.Within wide)
    (hids : ((inventory.records hostsTable).map (·.id)).Nodup)
    (hhost : host ∈ (hosts inventory narrow).survivors p) :
    keepsId inventory narrow wide host.id = true := by
  obtain ⟨hmem, hadmits⟩ := mem_records_of_mem_survivors hhost
  have hwide : host ∈ (hosts inventory wide).records := List.mem_filter.2 ⟨hmem, h.admits hadmits⟩
  have hnodup : ((hosts inventory wide).records.map (·.id)).Nodup :=
    hids.sublist (List.filter_sublist.map _)
  rw [← firstsBy_eq_self hnodup] at hwide
  rw [keepsId, (mem_firstsAfter_iff.1 hwide).2]
  exact hadmits

/-- What becomes of the rows of an answer when more hosts are in scope.  A row stays if its host
still counts for its id, and if all do then the answer only grows.  They do where no id is
repeated. -/
theorem run_hosts_widened (h : narrow.Within wide) {source : String} {answer : Answer}
    (hrun : (hosts inventory narrow).run Catalog.hosts source = .ok answer) :
    ∃ p, Plan.ofSource Catalog.hosts inventory source = .ok p ∧
      let few := (hosts inventory narrow).survivors p
      let many := (hosts inventory wide).survivors p
      let cells := (hosts inventory narrow).cells p
      answer.rows = few.map cells ∧
      (∀ answer', (hosts inventory wide).run Catalog.hosts source = .ok answer' ↔
        many ≠ [] ∧ answer' = ⟨answer.header, many.map cells⟩) ∧
      (few.filter fun host ↦ keepsId inventory narrow wide host.id).Sublist many ∧
      (∀ host ∈ few, host ∈ many ↔ keepsId inventory narrow wide host.id = true) ∧
      ((∀ host ∈ few, keepsId inventory narrow wide host.id = true) →
        ∃ answer', (hosts inventory wide).run Catalog.hosts source = .ok answer' ∧
          answer'.header = answer.header ∧ answer.rows.Sublist answer'.rows) ∧
      (((inventory.records hostsTable).map (·.id)).Nodup →
        ∀ host ∈ few, keepsId inventory narrow wide host.id = true) := by
  obtain ⟨p, hp, hsome, rfl⟩ := (run_eq_ok_iff Catalog.coherent_hosts).1 hrun
  refine ⟨p, hp, ?_⟩
  intro few many cells
  have hkept : (few.filter fun host ↦ keepsId inventory narrow wide host.id).Sublist many :=
    filter_survivors_sublist h p
  have hwide (answer' : Answer) : (hosts inventory wide).run Catalog.hosts source = .ok answer' ↔
      many ≠ [] ∧ answer' = ⟨p.fields.map fun f ↦ (f.token, f.header), many.map cells⟩ := by
    rw [run_eq_ok_iff Catalog.coherent_hosts]
    constructor
    · rintro ⟨p', hp', hresult⟩
      obtain rfl : p = p' := Except.ok.inj (hp.symm.trans hp')
      exact hresult
    · exact fun hresult ↦ ⟨p, hp, hresult⟩
  refine ⟨rfl, hwide, hkept, fun host ↦ mem_survivors_wide_iff h, fun hall ↦ ?_,
    fun hids host ↦ keepsId_of_nodup h hids⟩
  have hsublist : few.Sublist many := by rwa [List.filter_eq_self.2 hall] at hkept
  have hmany : many ≠ [] := fun hnone ↦ hsome (List.sublist_nil.1 (hnone ▸ hsublist))
  exact ⟨_, (hwide _).2 ⟨hmany, rfl⟩, rfl, hsublist.map cells⟩

/-! ## A host that was replaced -/

/-- A host that is gone, and one that came in its place under the same id. -/
def replacement : Json :=
  .object [("tables", .object [("hosts", .array [
    .object [("id", .ofInt 1), ("fqdn", .text "old.test"), ("active", .bool false)],
    .object [("id", .ofInt 1), ("fqdn", .text "a.test")]])])]

/-- The host that is gone has no place in the narrow scope, and so the other one is found. -/
theorem exists_run_replacement :
    ∃ inventory answer, Inventory.ofJson? replacement = some inventory ∧
      (hosts inventory ⟨false, false⟩).run Catalog.hosts "fqdn where fqdn = a.test" = .ok answer ∧
      answer.rows = [[("fqdn", .text "a.test")]] ∧
      ∀ answer', (hosts inventory ⟨true, false⟩).run Catalog.hosts "fqdn where fqdn = a.test" ≠
        .ok answer' := by
  have hrun : (Inventory.ofJson? replacement).any (fun inventory ↦
      ((hosts inventory ⟨false, false⟩).run Catalog.hosts
          "fqdn where fqdn = a.test").toOption.any (·.rows = [[("fqdn", .text "a.test")]]) &&
        ((hosts inventory ⟨true, false⟩).run Catalog.hosts
          "fqdn where fqdn = a.test").toOption.isNone) = true := by
    decide +kernel
  obtain ⟨inventory, hinventory, hboth⟩ := (Option.any_eq_true _ _).1 hrun
  obtain ⟨hnarrow, hwide⟩ := Bool.and_eq_true_iff.1 hboth
  obtain ⟨answer, hanswer, hrows⟩ := (Option.any_eq_true _ _).1 hnarrow
  refine ⟨inventory, answer, hinventory, toOption_eq_some_iff.1 hanswer,
    of_decide_eq_true hrows, fun answer' hanswer' ↦ ?_⟩
  rw [hanswer'] at hwide
  cases hwide

theorem within_inactive : ScopeOptions.Within ⟨false, false⟩ ⟨true, false⟩ :=
  ⟨fun h ↦ absurd h Bool.false_ne_true, fun h ↦ absurd h Bool.false_ne_true⟩

theorem run_hosts_widened_of_replacement :
    ∃ inventory p, Inventory.ofJson? replacement = some inventory ∧
      Plan.ofSource Catalog.hosts inventory "fqdn where fqdn = a.test" = .ok p ∧
      ∃ host ∈ (hosts inventory ⟨false, false⟩).survivors p,
        keepsId inventory ⟨false, false⟩ ⟨true, false⟩ host.id = false := by
  obtain ⟨inventory, answer, hinventory, hanswer, -, hwide⟩ := exists_run_replacement
  obtain ⟨p, hp, -, -, -, -, hgrows, -⟩ := run_hosts_widened within_inactive hanswer
  refine ⟨inventory, p, hinventory, hp, ?_⟩
  -- If all hosts counted for their ids then the wide scope would have an answer.
  by_contra hnone
  have hall : ∀ host ∈ (hosts inventory ⟨false, false⟩).survivors p,
      keepsId inventory ⟨false, false⟩ ⟨true, false⟩ host.id = true := by
    intro host hhost
    by_contra hkept
    exact hnone ⟨host, hhost, by simpa using hkept⟩
  obtain ⟨answer', hanswer', -⟩ := hgrows hall
  exact hwide answer' hanswer'

/-- In the wide scope the host that is gone counts for the id, and nothing is found. -/
theorem run_hosts_loses_replacement :
    ScopeOptions.Within ⟨false, false⟩ ⟨true, false⟩ ∧
      ∃ inventory answer, Inventory.ofJson? replacement = some inventory ∧
        (hosts inventory ⟨false, false⟩).run Catalog.hosts "fqdn where fqdn = a.test" =
          .ok answer ∧
        ¬∃ answer', (hosts inventory ⟨true, false⟩).run Catalog.hosts "fqdn where fqdn = a.test" =
          .ok answer' ∧ answer'.header = answer.header ∧ answer.rows.Sublist answer'.rows := by
  obtain ⟨inventory, answer, hinventory, hanswer, -, hwide⟩ := exists_run_replacement
  refine ⟨within_inactive, inventory, answer, hinventory, hanswer, ?_⟩
  rintro ⟨answer', hanswer', -⟩
  exact hwide answer' hanswer'

end Scope

end InventoryQuery
