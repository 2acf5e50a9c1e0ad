import InventoryQuery.Proofs.Answer.Bounds
import InventoryQuery.Proofs.Answer.Cells
import InventoryQuery.Proofs.Calendar.Latest
import InventoryQuery.Proofs.Inventory.Names

/-!
# Beyond the open end

The open end stands for the largest timestamp that is stored, but a document may store texts that
read as later ones.  A host with such a text matches `>` for the open end, and does not match `<=`.
Apart from these the open end is the last timestamp.
-/

namespace InventoryQuery

variable {inventory : Inventory}

/-! ## Points in time that a document stores -/

namespace Value

/-- The timestamp of a point in time, with a zone or without. -/
def moment? : Value → Option Timestamp
  | .timestamp t | .instant t => some t
  | _ => none

theorem compare_openEnd_eq_map (v : Value) (zoned : Bool) :
    v.compare (.openEnd zoned) = v.moment?.map (·.compare .openEnd) := by
  cases zoned <;> cases v <;> rfl

/-- The timestamp that a stored text reads as. -/
def storedMoment? : Value → Option Timestamp
  | .text s => (readMoment s).bind moment?
  | _ => none

theorem IsMoment.isSome_moment? {v : Value} (h : v.IsMoment) : v.moment?.isSome = true := by
  cases v with
  | timestamp t | instant t => rfl
  | _ => exact h.elim

theorem isSome_storedMoment? (s : String) :
    (text s).storedMoment?.isSome = (readMoment s).isSome := by
  simp only [storedMoment?]
  cases hread : readMoment s with
  | none => rfl
  | some v => exact (isMoment_of_readMoment hread).isSome_moment?

/-- Neither a date nor a point in time. -/
def IsPlain : Value → Prop
  | .date _ | .timestamp _ | .instant _ => False
  | _ => True

theorem IsPlain.moment?_coerce {v : Value} (h : v.IsPlain) :
    (v.coerce .datetime).moment? = v.storedMoment? := by
  cases v with
  | date d | timestamp t | instant t => exact h.elim
  | text s =>
    simp only [coerce, storedMoment?]
    cases readMoment s with
    | none => rfl
    | some moment => rfl
  | _ => rfl

theorem isPlain_of_toValue? {json : Json} {v : Value} (h : json.toValue? = some v) : v.IsPlain := by
  cases json with
  | null | bool b | text s =>
    obtain rfl := Option.some.inj h
    trivial
  | number n =>
    simp only [Json.toValue?] at h
    split at h
    · obtain rfl := Option.some.inj h
      trivial
    · obtain ⟨x, -, rfl⟩ := Option.map_eq_some_iff.1 h
      trivial
  | array | object => cases h

end Value

namespace Record

/-- The timestamp that the text under a name reads as. -/
def storedMoment? (r : Record) (name : String) : Option Timestamp :=
  (r.get? name).bind Value.storedMoment?

theorem mem_of_mem_setAttribute {name : String} {v : Value} {attributes : List (String × Value)}
    {pair : String × Value} (h : pair ∈ setAttribute name v attributes) :
    pair.2 = v ∨ pair ∈ attributes := by
  induction attributes with
  | nil =>
    obtain rfl := List.mem_singleton.1 h
    exact .inl rfl
  | cons first rest ih =>
    unfold setAttribute at h
    split at h
    · rcases List.mem_cons.1 h with rfl | h
      · exact .inl rfl
      · exact .inr (List.mem_cons_of_mem _ h)
    · rcases List.mem_cons.1 h with rfl | h
      · exact .inr List.mem_cons_self
      · exact (ih h).imp_right (List.mem_cons_of_mem _)

theorem mem_values_of_mem_ofList {id : Int64} {attributes : List (String × Value)}
    {pair : String × Value} (h : pair ∈ (ofList id attributes).attributes) :
    pair.2 ∈ attributes.map (·.2) := by
  induction attributes using List.reverseRecOn with
  | nil => cases h
  | append_singleton before last ih =>
    rw [ofList, List.foldl_append] at h
    rw [List.map_append, List.mem_append]
    rcases mem_of_mem_setAttribute h with hv | hmem
    · exact .inr (by simp [hv])
    · exact .inl (ih hmem)

/-- A document has no values of its own for dates and points in time. -/
theorem isPlain_of_ofJson? {json : Json} {r : Record} (h : ofJson? json = some r) {name : String}
    {v : Value} (hget : r.get? name = some v) : v.IsPlain := by
  unfold get? at hget
  split at hget
  · obtain rfl := Option.some.inj hget
    trivial
  · have hmem := (Row.lookup_eq_some_iff_mem r.distinct).1 hget
    cases json with
    | object members =>
      simp only [ofJson?, Option.bind_eq_bind, Option.bind_eq_some_iff] at h
      obtain ⟨-, -, id, -, attributes, hattributes, hr⟩ := h
      obtain rfl : ofList id attributes = r := Option.some.inj hr
      obtain ⟨⟨other, v'⟩, hpair, rfl⟩ := List.mem_map.1 (mem_values_of_mem_ofList hmem)
      obtain ⟨value, -, hvalue⟩ := exists_member_of_mapM hattributes hpair
      exact Value.isPlain_of_toValue? hvalue
    | _ => cases h

end Record

open Catalog.Hosts in
/-- What is read for the end of a reservation is what its text reads as. -/
theorem moment?_read_reservedUntil {json : Json} {host : Record}
    (h : Record.ofJson? json = some host) :
    (reservedUntil.read inventory host).moment? = host.storedMoment? "reserved_until" := by
  have hread : reservedUntil.read inventory host =
      ((host.get? "reserved_until").getD .null).coerce .datetime := rfl
  rw [hread, Record.storedMoment?]
  cases hget : host.get? "reserved_until" with
  | none => rfl
  | some v =>
    have hplain := Record.isPlain_of_ofJson? h hget
    exact hplain.moment?_coerce

/-! ## Moderate texts -/

namespace Value

theorem not_isBeyond_of_moderate {s : String} (hmoderate : Calendar.Moderate (Text.trim s.toList))
    {t : Timestamp} (h : (readMoment s).bind moment? = some t) : ¬t.IsBeyond := by
  obtain ⟨moment, hread, hmoment⟩ := Option.bind_eq_some_iff.1 h
  unfold readMoment at hread
  simp only at hread
  split at hread
  · next t' hinstant =>
    obtain rfl := Option.some.inj hread
    obtain rfl := Option.some.inj hmoment
    exact hmoderate.not_isBeyond_of_readInstant hinstant
  · obtain ⟨t', htimestamp, rfl⟩ := Option.map_eq_some_iff.1 hread
    obtain rfl := Option.some.inj hmoment
    exact hmoderate.not_isBeyond_of_readTimestamp htimestamp

end Value

/-! ## The queries -/

theorem any_isGT_iff {moment : Option Timestamp} :
    (moment.map (·.compare .openEnd)).any Ordering.isGT = true ↔
      ∃ t, moment = some t ∧ t.IsBeyond := by
  rw [Option.any_map, Option.any_eq_true]
  simp only [Ordering.isGT_iff_eq_gt, Timestamp.compare_openEnd_eq_gt_iff]

theorem any_isLE_iff {moment : Option Timestamp} :
    (moment.map (·.compare .openEnd)).any Ordering.isLE = true ↔
      ∃ t, moment = some t ∧ ¬t.IsBeyond := by
  rw [Option.any_map, Option.any_eq_true]
  simp only [← Timestamp.compare_openEnd_eq_gt_iff, Ordering.isLE_iff_ne_gt]

namespace Plan

open Catalog.Hosts

section Document

variable {document : String} (hdocument : Inventory.ofDocument? document = some inventory)
  {source : Operator → String} {shown : List String} {word : String}
  (hsource : ∀ op, Query.Compares (source op) shown "reserved_until" op word)
  (hshown : ∀ name ∈ shown, (Catalog.hosts.resolve? name).isSome = true)
  (hword : Text.equalIgnoringAsciiCase word openEndWord = true)

include hdocument hsource hshown hword

/-- Hosts of a document are selected by where their texts stand to the open end. -/
theorem exists_ofSource_openEnd (op : Operator) {accepts : Ordering → Bool}
    (haccepts : op.accepts? = some accepts) :
    ∃ p, ofSource Catalog.hosts inventory (source op) = .ok p ∧
      ∀ options, ∀ host ∈ (Scope.hosts inventory options).records, p.selects inventory host =
        ((host.storedMoment? "reserved_until").map (·.compare .openEnd)).any accepts := by
  have hkind : reservedUntil.kind.isOrdered = true := by decide
  obtain ⟨fields, hfields⟩ := exists_forall₂_of_isSome hshown
  obtain ⟨test, htest, -⟩ := Operator.exists_test? haccepts hkind
  have hgiven : reservedUntil.Given inventory test word (.openEnd (test != .exact)) := by
    unfold Field.Given
    rw [if_pos ⟨by decide, hword⟩]
  obtain ⟨p, hp, hselects⟩ := exists_ofSource_of_accepts? (hsource op)
    (Catalog.resolve?_hosts reservedUntil_mem) hkind (by decide) hfields haccepts htest hgiven
  refine ⟨p, hp, fun options host hhost ↦ ?_⟩
  obtain ⟨json, hjson⟩ :=
    Inventory.exists_json_of_ofDocument? hdocument (List.mem_filter.1 hhost).1
  rw [hselects, Value.compare_openEnd_eq_map, moment?_read_reservedUntil hjson]

/-- A host of a document is selected by `>` for the open end exactly if the text of the end of its
reservation reads as a timestamp beyond, and by `<=` if it reads as any other timestamp.  With a
moderate text no host is selected by `>`, and every one is by `<=` that has a timestamp. -/
theorem selects_openEnd_hosts_iff (options : ScopeOptions) :
    ∃ later upTo, ofSource Catalog.hosts inventory (source .greater) = .ok later ∧
      ofSource Catalog.hosts inventory (source .atMost) = .ok upTo ∧
      ∀ host ∈ (Scope.hosts inventory options).records,
        (later.selects inventory host = true ↔
          ∃ t, host.storedMoment? "reserved_until" = some t ∧ t.IsBeyond) ∧
        (upTo.selects inventory host = true ↔
          ∃ t, host.storedMoment? "reserved_until" = some t ∧ ¬t.IsBeyond) ∧
        ∀ text, host.get? "reserved_until" = some (.text text) →
          Calendar.Moderate (Text.trim text.toList) →
            later.selects inventory host = false ∧
              (upTo.selects inventory host = true ↔ (Value.readMoment text).isSome = true) := by
  obtain ⟨later, hlater, hgreater⟩ :=
    exists_ofSource_openEnd hdocument hsource hshown hword .greater rfl
  obtain ⟨upTo, hupTo, hatMost⟩ :=
    exists_ofSource_openEnd hdocument hsource hshown hword .atMost rfl
  refine ⟨later, upTo, hlater, hupTo, fun host hhost ↦ ?_⟩
  have hbeyond := (hgreater options host hhost).symm ▸ any_isGT_iff
  have hwithin := (hatMost options host hhost).symm ▸ any_isLE_iff
  refine ⟨hbeyond, hwithin, fun text htext hmoderate ↦ ?_⟩
  have hmoment : host.storedMoment? "reserved_until" = (Value.text text).storedMoment? := by
    rw [Record.storedMoment?, htext, Option.bind_some]
  have hnever : ∀ t, (Value.text text).storedMoment? = some t → ¬t.IsBeyond := fun t ↦
    Value.not_isBeyond_of_moderate hmoderate
  rw [hmoment] at hbeyond hwithin
  refine ⟨?_, ?_⟩
  · rw [← Bool.not_eq_true, hbeyond]
    rintro ⟨t, ht, hlate⟩
    exact hnever t ht hlate
  · rw [hwithin, ← Value.isSome_storedMoment?, Option.isSome_iff_exists]
    exact exists_congr fun t ↦ and_iff_left_of_imp (hnever t)

end Document

end Plan

/-! ## A fraction of seven digits -/

namespace OpenEnd

/-- A host that is reserved until after the last microsecond of the year 9999. -/
def document : String :=
  "\x7b\x22tables\x22: \x7b\x22hosts\x22: [\x7b\x22id\x22: 1, " ++
    "\x22reserved_until\x22: \x229999-12-31T23:59:59.9999999\x22\x7d]\x7d\x7d"

theorem isOpenEndWord : Text.equalIgnoringAsciiCase "Infinite" openEndWord = true := by decide

theorem exists_inventory :
    ∃ inventory host t, Inventory.ofDocument? document = some inventory ∧
      host ∈ (Scope.hosts inventory ⟨false, false⟩).records ∧
      host.storedMoment? "reserved_until" = some t ∧ t.IsBeyond := by
  have hread : (Inventory.ofDocument? document).any (fun inventory ↦
      (Scope.hosts inventory ⟨false, false⟩).records.any fun host ↦
        host.get? "reserved_until" == some (.text "9999-12-31T23:59:59.9999999")) = true := by
    cbv
  have hbeyond : (Value.text "9999-12-31T23:59:59.9999999").storedMoment?.any
      (fun t ↦ decide t.IsBeyond) = true := by decide +kernel
  obtain ⟨inventory, hdocument, hhosts⟩ := (Option.any_eq_true _ _).1 hread
  obtain ⟨host, hhost, htext⟩ := List.any_eq_true.1 hhosts
  obtain ⟨t, ht, hbeyond⟩ := (Option.any_eq_true _ _).1 hbeyond
  refine ⟨inventory, host, t, hdocument, hhost, ?_, of_decide_eq_true hbeyond⟩
  rw [Record.storedMoment?, beq_iff_eq.1 htext, Option.bind_some, ht]

end OpenEnd

open Catalog.Hosts OpenEnd in
/-- The host is reserved until after the open end. -/
theorem Plan.selects_openEnd_hosts_iff_of_fraction :
    (∀ op, Query.Compares (untilForEver op) ["fqdn"] "reserved_until" op "Infinite") ∧
    Text.equalIgnoringAsciiCase "Infinite" openEndWord = true ∧
    ∃ inventory host later, Inventory.ofDocument? document = some inventory ∧
      host ∈ (Scope.hosts inventory ⟨false, false⟩).records ∧
      ofSource Catalog.hosts inventory (untilForEver .greater) = .ok later ∧
      later.selects inventory host = true := by
  obtain ⟨inventory, host, t, hdocument, hhost, ht, hbeyond⟩ := exists_inventory
  obtain ⟨later, upTo, hlater, -, hselects⟩ :=
    selects_openEnd_hosts_iff hdocument compares_untilForEver isSome_resolve?_fqdn isOpenEndWord
      ⟨false, false⟩
  exact ⟨compares_untilForEver, isOpenEndWord, inventory, host, later, hdocument, hhost, hlater,
    (hselects host hhost).1.2 ⟨t, ht, hbeyond⟩⟩

open Catalog.Hosts OpenEnd in
/-- The end of its reservation reads as a timestamp, is more than the open end, and is not at most
the open end. -/
theorem Plan.selects_beyond_openEnd :
    ∃ inventory host t later upTo, Inventory.ofDocument? document = some inventory ∧
      host ∈ (Scope.hosts inventory ⟨false, false⟩).records ∧
      host.storedMoment? "reserved_until" = some t ∧
      ofSource Catalog.hosts inventory (untilForEver .greater) = .ok later ∧
      ofSource Catalog.hosts inventory (untilForEver .atMost) = .ok upTo ∧
      later.selects inventory host = true ∧ upTo.selects inventory host = false := by
  obtain ⟨inventory, host, t, hdocument, hhost, ht, hbeyond⟩ := exists_inventory
  obtain ⟨later, hlater, hgreater⟩ := exists_ofSource_openEnd hdocument compares_untilForEver
    isSome_resolve?_fqdn isOpenEndWord .greater rfl
  obtain ⟨upTo, hupTo, hatMost⟩ := exists_ofSource_openEnd hdocument compares_untilForEver
    isSome_resolve?_fqdn isOpenEndWord .atMost rfl
  have hless : t.compare .openEnd = .gt := Timestamp.compare_openEnd_eq_gt_iff.2 hbeyond
  refine ⟨inventory, host, t, later, upTo, hdocument, hhost, ht, hlater, hupTo, ?_, ?_⟩
  · rw [hgreater _ host hhost, ht, Option.map_some, hless]
    rfl
  · rw [hatMost _ host hhost, ht, Option.map_some, hless]
    rfl

end InventoryQuery
