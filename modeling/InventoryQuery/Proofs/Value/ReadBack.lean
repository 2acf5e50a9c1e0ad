import InventoryQuery.Proofs.Calendar.Reading
import InventoryQuery.Proofs.Number.Positional
import InventoryQuery.Proofs.Predicate.Tests
import InventoryQuery.Proofs.Query.FieldList
import InventoryQuery.Query.Operator
import InventoryQuery.Value.Literal

/-!
# Values that are read back

Which values their own text stands for, as a literal of a kind of field.  A number is read as one
that is equal to it, and a point in time without its fraction of a second.
-/

namespace InventoryQuery

/-- Nothing is trimmed off a text without blanks at its ends. -/
theorem Text.trim_eq_self {text : List Char} (hfirst : ∀ c ∈ text.head?, isBlank c = false)
    (hlast : ∀ c ∈ text.getLast?, isBlank c = false) : trim text = text := by
  have hnone : ∀ c ∈ [], isBlank c = true := List.forall_mem_nil _
  have hstart : trimStart text = text := dropWhile_run hnone hfirst
  have hend : text.reverse.dropWhile isBlank = text.reverse := by
    have hhead : ∀ c ∈ text.reverse.head?, isBlank c = false := by
      rwa [List.head?_reverse]
    exact dropWhile_run hnone hhead
  rw [trim, trimEnd, hstart, hend, List.reverse_reverse]

theorem Text.trim_append_eq_self {text last : List Char}
    (hfirst : ∀ c ∈ (text ++ last).head?, isBlank c = false) (hsome : last ≠ [])
    (hlast : ∀ c ∈ last, isBlank c = false) : trim (text ++ last) = text ++ last := by
  refine trim_eq_self hfirst fun c hc ↦ ?_
  rw [List.getLast?_append_of_ne_nil _ hsome] at hc
  exact hlast c (List.mem_of_getLast? hc)

theorem Text.trim_of_forall {text : List Char} (h : ∀ c ∈ text, isBlank c = false) :
    trim text = text :=
  trim_eq_self (fun c hc ↦ h c (List.mem_of_head? hc)) fun c hc ↦ h c (List.mem_of_getLast? hc)

/-! ## Numbers -/

theorem Binary64.compare_self {x : Binary64} (h : x ≠ .nan) : x.compare x = some .eq := by
  obtain ⟨place, hplace⟩ := Option.isSome_iff_exists.1 (position_isSome_iff.2 h)
  simp [compare, hplace]

theorem Binary64.position_zero (negative : Bool) {shift : Nat}
    (hcanonical : IsCanonical 0 shift) :
    (finite negative 0 shift hcanonical).position = some 0 := by
  rw [position, Nat.zero_mul]
  cases negative with
  | false => rfl
  | true => rfl

namespace Value

/-- Digits, points and signs are no blanks. -/
theorem readNumber_ofList {text : List Char}
    (h : ∀ c ∈ text, c.isDigit = true ∨ c = '.' ∨ c = '-') :
    readNumber (String.ofList text) =
      ((Number.readInt64 text).map .int).or ((Number.readBinary64 text).map .float) := by
  have hblank : ∀ c ∈ text, Text.isBlank c = false := by
    intro c hc
    rcases h c hc with hdigit | rfl | rfl
    · exact Text.isBlank_of_isDigit hdigit
    · decide
    · decide
  unfold readNumber
  rw [String.toList_ofList, Text.trim_of_forall hblank]
  dsimp only
  cases Number.readInt64 text with
  | none => rfl
  | some i => rfl

theorem readNumber_int (i : Int64) : readNumber (Value.int i).toText = some (.int i) := by
  have htext : ∀ c ∈ Number.intText i.toInt, c.isDigit = true ∨ c = '.' ∨ c = '-' := by
    rw [Number.intText_eq_marked]
    intro c hc
    rcases Number.mem_marked hc with rfl | hc
    · exact .inr (.inr rfl)
    · exact .inl (Number.isDigit_of_mem_natText c hc)
  rw [toText, readNumber_ofList htext, Number.readInt64_intText, Option.map_some, Option.some_or]

theorem exists_readNumber_float {x : Binary64} (h : x ≠ .nan) :
    ∃ given, readNumber (Value.float x).toText = some given ∧
      (Value.float x).compare given = some .eq := by
  cases x with
  | nan => exact absurd rfl h
  | infinity negative =>
    refine ⟨.float (.infinity negative), ?_, Binary64.compare_self h⟩
    cases negative with
    | false => rfl
    | true => rfl
  | finite negative significand shift hcanonical =>
    rcases Nat.eq_zero_or_pos significand with rfl | hsome
    · have hread : readNumber (Value.float (.finite negative 0 shift hcanonical)).toText =
          some (.int 0) := by
        rw [toText, Binary64.toText]
        cases negative with
        | false => rfl
        | true => rfl
      have hzero : (Binary64.ofInt (0 : Int64).toInt).position = some 0 := by decide +kernel
      refine ⟨.int 0, hread, ?_⟩
      rw [compare, Binary64.compare, hzero, Binary64.position_zero]
      rfl
    · obtain ⟨text, hwritten, hchars, hread, hinteger⟩ :=
        Binary64.exists_toText hcanonical hsome negative
      rw [toText, hwritten, readNumber_ofList hchars]
      cases hint : Number.readInt64 text with
      | none =>
        refine ⟨.float (.finite negative significand shift hcanonical), ?_, Binary64.compare_self h⟩
        rw [hread, Option.map_none, Option.none_or, Option.map_some]
      | some i =>
        obtain ⟨n, hn, hi⟩ := Option.bind_eq_some_iff.1 hint
        refine ⟨.int i, rfl, ?_⟩
        rw [compare, Number.toInt64?_eq_some_iff.1 hi, hinteger n hn]
        exact Binary64.compare_self h

/-! ## Dates and points in time -/

theorem readDate_date (d : Date) : readDate (Value.date d).toText = some d := by
  have htrim : Text.trim d.toText = d.toText := by
    have hfirst := d.isBlank_of_head?_toText []
    rw [List.append_nil] at hfirst
    exact Text.trim_append_eq_self hfirst (List.cons_ne_nil _ _)
      (Date.isBlank_of_mem_part (by decide))
  rw [readDate, toText, String.toList_ofList, htrim, Calendar.readDate_toText]

theorem readMoment_timestamp (t : Timestamp) :
    readMoment (Value.timestamp t).toText = some (.timestamp t.wholeSeconds) := by
  have htrim : Text.trim t.toText = t.toText := by
    have htext : t.toText = t.date.toText ++ (' ' :: Date.padded 2 (t.seconds / 3600) ++
        ':' :: Date.padded 2 (t.seconds / 60 % 60)) ++
          ':' :: Date.padded 2 (t.seconds % 60 + t.nanos / Timestamp.second) := by
      simp only [Timestamp.toText, Timestamp.clockText, List.append_assoc, List.cons_append]
    rw [htext]
    refine Text.trim_append_eq_self ?_ (List.cons_ne_nil _ _) (Date.isBlank_of_mem_part (by decide))
    rw [List.append_assoc]
    exact t.date.isBlank_of_head?_toText _
  unfold readMoment
  rw [toText, String.toList_ofList, htrim]
  simp only [Calendar.readInstant_toText, Calendar.readTimestamp_toText, Option.map_some]

theorem readMoment_instant (t : Timestamp) :
    readMoment (Value.instant t).toText =
      if 0 ≤ t.date.year ∧ t.date.year ≤ 9999 then some (.instant t.wholeSeconds) else none := by
  have htext : (Value.instant t).toText.toList = t.toText ++ Calendar.Reader.zone :=
    String.toList_ofList
  have htrim : Text.trim (t.toText ++ Calendar.Reader.zone) = t.toText ++ Calendar.Reader.zone := by
    have hfirst := t.date.isBlank_of_head?_toText (' ' :: t.clockText ++ Calendar.Reader.zone)
    rw [← List.append_assoc] at hfirst
    exact Text.trim_append_eq_self hfirst (by decide) (by decide)
  unfold readMoment
  rw [htext, htrim]
  dsimp only
  rw [Calendar.readInstant_zoned]
  by_cases hyear : 0 ≤ t.date.year ∧ t.date.year ≤ 9999
  · simp only [if_pos hyear]
  · simp only [if_neg hyear, Calendar.readTimestamp_zoned, Option.map_none]

/-! ## Literals -/

/-- The values whose text is a literal for an equal value of a kind. -/
def ReadsBack : Kind → Value → Prop
  | .text, .text _ | .longText, .text _ | .boolean, .bool _ | .date, .date _ => True
  | .numeric, v => v.IsNumber
  | .datetime, .timestamp t => t.nanos % Timestamp.second = 0
  | .datetime, .instant t =>
    t.nanos % Timestamp.second = 0 ∧ 0 ≤ t.date.year ∧ t.date.year ≤ 9999
  | _, _ => False

variable {v given : Value}

theorem isMoment_of_readMoment {s : String} (h : readMoment s = some given) : given.IsMoment := by
  unfold readMoment at h
  dsimp only at h
  split at h
  · obtain rfl := Option.some.inj h
    trivial
  · obtain ⟨t, -, rfl⟩ := Option.map_eq_some_iff.1 h
    trivial

theorem exists_of_readNumber {s : String} (h : readNumber s = some given) :
    (∃ i, given = .int i) ∨ ∃ x, given = .float x := by
  unfold readNumber at h
  dsimp only at h
  split at h
  · next i _ => exact .inl ⟨i, (Option.some.inj h).symm⟩
  · obtain ⟨x, -, rfl⟩ := Option.map_eq_some_iff.1 h
    exact .inr ⟨x, rfl⟩

theorem isNumber_of_compare_float {x : Binary64} (h : v.compare (.float x) = some .eq) :
    v.IsNumber := by
  cases v with
  | int i => trivial
  | float y =>
    obtain ⟨place, hplace, -⟩ := Option.bind_eq_some_iff.1 h
    exact Binary64.position_isSome_iff.1 (Option.isSome_of_eq_some hplace)
  | _ => simp [compare] at h

theorem exists_readNumber (h : v.IsNumber) :
    ∃ given, readNumber v.toText = some given ∧ v.compare given = some .eq := by
  cases v with
  | int i => exact ⟨.int i, readNumber_int i, by simp [compare]⟩
  | float x => exact exists_readNumber_float h
  | _ => exact h.elim

theorem exists_readBool_iff :
    (∃ given, (readBool v.toText).map .bool = some given ∧ v.compare given = some .eq) ↔
      v.ReadsBack .boolean := by
  constructor
  · rintro ⟨given, hread, hcompare⟩
    obtain ⟨b, -, rfl⟩ := Option.map_eq_some_iff.1 hread
    cases v with
    | bool b' => trivial
    | _ => simp [compare] at hcompare
  · intro h
    cases v with
    | bool b =>
      have hread : readBool (Value.bool b).toText = some b := by
        cases b with
        | false => rfl
        | true => rfl
      exact ⟨.bool b, by rw [hread, Option.map_some], by simp [compare]⟩
    | _ => exact h.elim

theorem exists_readNumber_iff :
    (∃ given, readNumber v.toText = some given ∧ v.compare given = some .eq) ↔
      v.ReadsBack .numeric := by
  refine ⟨?_, exists_readNumber⟩
  rintro ⟨given, hread, hcompare⟩
  rcases exists_of_readNumber hread with ⟨i, rfl⟩ | ⟨x, rfl⟩
  · exact compare_int_isSome_iff.1 (Option.isSome_of_eq_some hcompare)
  · exact isNumber_of_compare_float hcompare

theorem exists_readDate_iff :
    (∃ given, (readDate v.toText).map .date = some given ∧ v.compare given = some .eq) ↔
      v.ReadsBack .date := by
  constructor
  · rintro ⟨given, hread, hcompare⟩
    obtain ⟨d, -, rfl⟩ := Option.map_eq_some_iff.1 hread
    cases v with
    | date d' => trivial
    | _ => simp [compare] at hcompare
  · intro h
    cases v with
    | date d =>
      refine ⟨.date d, ?_, ?_⟩
      · rw [readDate_date, Option.map_some]
      · simp [compare, Date.compare]
    | _ => exact h.elim

theorem isMoment_of_compare (hgiven : given.IsMoment) (h : v.compare given = some .eq) :
    v.IsMoment := by
  cases given with
  | timestamp t | instant t =>
    cases v with
    | timestamp t' | instant t' => trivial
    | _ => simp [compare] at h
  | _ => exact hgiven.elim

theorem ReadsBack.isMoment (h : v.ReadsBack .datetime) : v.IsMoment := by
  cases v with
  | timestamp t | instant t => trivial
  | _ => exact h.elim

theorem exists_readMoment_iff :
    (∃ given, readMoment v.toText = some given ∧ v.compare given = some .eq) ↔
      v.ReadsBack .datetime := by
  constructor
  · rintro ⟨given, hread, hcompare⟩
    have hmoment := isMoment_of_compare (isMoment_of_readMoment hread) hcompare
    cases v with
    | timestamp t =>
      rw [readMoment_timestamp] at hread
      obtain rfl := Option.some.inj hread
      exact t.compare_wholeSeconds.1 (Option.some.inj hcompare)
    | instant t =>
      rw [readMoment_instant] at hread
      split at hread
      · next hyear =>
        obtain rfl := Option.some.inj hread
        exact ⟨t.compare_wholeSeconds.1 (Option.some.inj hcompare), hyear⟩
      · cases hread
    | _ => exact hmoment.elim
  · intro h
    cases v with
    | timestamp t =>
      exact ⟨_, readMoment_timestamp t, congrArg some (t.compare_wholeSeconds.2 h)⟩
    | instant t =>
      refine ⟨.instant t.wholeSeconds, ?_, congrArg some (t.compare_wholeSeconds.2 h.1)⟩
      rw [readMoment_instant, if_pos h.2]
    | _ => exact h.elim

theorem equal_or_exact_of_test? {kind : Kind} {test : Test}
    (h : Operator.equal.test? kind = some test) : test = .equal ∨ test = .exact := by
  cases kind with
  | datetime | reference => exact .inr (Option.some.inj h).symm
  | _ => exact .inl (Option.some.inj h).symm

/-- A literal that is no text is compared with, whichever of the two tests is made. -/
theorem exists_elim_eq_ok_iff {o : Option Value} {fault : LiteralFault} {test : Test}
    (htest : test = .equal ∨ test = .exact)
    (hread : ∀ given, o = some given → given ≠ .null ∧ given.asText? = none) :
    (∃ given, o.elim (.error fault) .ok = (.ok given : Except LiteralFault Value) ∧
        v.passes test given = true) ↔
      ∃ given, o = some given ∧ v.compare given = some .eq := by
  cases o with
  | none => simp
  | some given =>
    obtain ⟨hnull, htext⟩ := hread given rfl
    have hpasses : v.passes test given = true ↔ v.compare given = some .eq := by
      rw [← passes_exact_iff_compare hnull]
      rcases htest with rfl | rfl
      · rw [passes_exact_of_not_text v htext]
      · rfl
    simp [hpasses]

/-- Which values are found by the text that they have. -/
theorem exists_ofLiteral_iff {kind : Kind} (hkind : kind ≠ .reference) {test : Test}
    (htest : Operator.equal.test? kind = some test) (v : Value) :
    (∃ given, ofLiteral kind v.toText = .ok given ∧ v.passes test given = true) ↔
      v.ReadsBack kind := by
  have hequal := equal_or_exact_of_test? htest
  cases kind with
  | reference => exact absurd rfl hkind
  | text | longText =>
    obtain rfl : .equal = test := Option.some.inj htest
    cases v with
    | text s => simp [ofLiteral, toText, passes, isNull, equalIgnoringCase, ReadsBack]
    | _ => simp [ofLiteral, passes, isNull, equalIgnoringCase, compare, ReadsBack]
  | boolean =>
    simp only [← exists_readBool_iff, ofLiteral]
    refine exists_elim_eq_ok_iff hequal fun given hread ↦ ?_
    obtain ⟨b, -, rfl⟩ := Option.map_eq_some_iff.1 hread
    exact ⟨by simp, rfl⟩
  | numeric =>
    simp only [← exists_readNumber_iff, ofLiteral]
    refine exists_elim_eq_ok_iff hequal fun given hread ↦ ?_
    rcases exists_of_readNumber hread with ⟨i, rfl⟩ | ⟨x, rfl⟩
    · exact ⟨by simp, rfl⟩
    · exact ⟨by simp, rfl⟩
  | date =>
    simp only [← exists_readDate_iff, ofLiteral]
    refine exists_elim_eq_ok_iff hequal fun given hread ↦ ?_
    obtain ⟨d, -, rfl⟩ := Option.map_eq_some_iff.1 hread
    exact ⟨by simp, rfl⟩
  | datetime =>
    simp only [← exists_readMoment_iff, ofLiteral]
    refine exists_elim_eq_ok_iff hequal fun given hread ↦ ?_
    have hmoment := isMoment_of_readMoment hread
    exact ⟨fun hnull ↦ by rw [hnull] at hmoment; exact hmoment, hmoment.asText?_eq_none⟩

end Value

end InventoryQuery
