import InventoryQuery.Proofs.Calendar.Reading
import Mathlib.Data.List.Infix

/-!
# The latest timestamps

The open end is the last timestamp in a year of four digits and at a whole microsecond.  Texts that
read as timestamps go beyond it by a sign before the year, by the digits of a fraction after the
sixth, by a leap second, and by a zone behind the universal one; texts without these do not.
-/

namespace InventoryQuery

open Number (ofDigits tenTo)

variable {text rest : List Char} {t : Timestamp}

theorem Date.day_le (d : Date) : d.day ≤ 31 := by
  obtain ⟨-, -, -, hday⟩ := d.valid
  unfold daysIn at hday
  split at hday
  · split at hday
    · omega
    · omega
  · split at hday
    · omega
    · omega

theorem Date.year_of_of?_eq_some {year : Int} {month day : Nat} {d : Date}
    (h : of? year month day = some d) : d.year = year := by
  unfold of? at h
  split at h
  · obtain rfl := Option.some.inj h
    rfl
  · cases h

theorem Date.year_le_of_previous? {d before : Date} (h : d.previous? = some before) :
    before.year ≤ d.year := by
  unfold previous? at h
  split at h
  · rw [year_of_of?_eq_some h]
  · split at h
    · rw [year_of_of?_eq_some h]
    · rw [year_of_of?_eq_some h]
      omega

namespace Timestamp

/-- After the open end: in a later year, or in the same second after the last microsecond. -/
def IsBeyond (t : Timestamp) : Prop :=
  9999 < t.date.year ∨ (t.date.year = 9999 ∧ t.date.month = 12 ∧ t.date.day = 31) ∧
    t.seconds = 86399 ∧ 999999000 < t.nanos

instance (t : Timestamp) : Decidable t.IsBeyond := inferInstanceAs (Decidable (_ ∨ (_ ∧ _) ∧ _ ∧ _))

theorem compare_openEnd_eq_gt_iff : t.compare .openEnd = .gt ↔ t.IsBeyond := by
  obtain ⟨-, ⟨-, hmonth⟩, -, -⟩ := t.date.valid
  have hday := t.date.day_le
  have hseconds := t.time.1
  simp only [compare, Date.compare, openEnd, Ordering.then_eq_gt, Ordering.then_eq_eq,
    Int.compare_eq_gt, Int.compare_eq_eq, Nat.compare_eq_gt, Nat.compare_eq_eq, IsBeyond]
  omega

/-- A timestamp in a year of four digits and at a microsecond is not after the open end. -/
theorem not_isBeyond (hyear : t.date.year ≤ 9999) (hnanos : t.nanos ≤ 999999000) :
    ¬t.IsBeyond := by
  unfold IsBeyond
  omega

theorem eq_of_of?_eq_some {date : Date} {seconds nanos : Nat}
    (h : of? date seconds nanos = some t) : t.date = date ∧ t.nanos = nanos := by
  unfold of? at h
  split at h
  · obtain rfl := Option.some.inj h
    exact ⟨rfl, rfl⟩
  · cases h

/-- A clock that is behind shows no later year. -/
theorem behind?_of_nonneg {offset : Int} (hoffset : 0 ≤ offset) {shifted : Timestamp}
    (h : t.behind? offset = some shifted) :
    shifted.date.year ≤ t.date.year ∧ shifted.nanos = t.nanos := by
  have hseconds := t.time.1
  unfold behind? at h
  extract_lets seconds at h
  split at h
  · obtain ⟨date, hdate, htime⟩ := Option.bind_eq_some_iff.1 h
    obtain ⟨rfl, hnanos⟩ := eq_of_of?_eq_some htime
    exact ⟨Date.year_le_of_previous? hdate, hnanos⟩
  · rw [if_pos (by omega)] at h
    obtain ⟨hdate, hnanos⟩ := eq_of_of?_eq_some h
    exact ⟨by rw [hdate], hnanos⟩

end Timestamp

namespace Calendar

/-- A text in which the year has no plus sign, a fraction has no more than six digits, and after the
hours there is neither a leap second nor a zone with a minus sign. -/
structure Moderate (text : List Char) : Prop where
  year : (Text.trimStart text).head? ≠ some '+'
  fraction : ∀ rest, '.' :: rest <:+ text → (rest.takeWhile Char.isDigit).length ≤ 6
  second : ∀ rest, ':' :: rest <:+ text → (Text.trimStart rest).take 2 ≠ ['6', '0']
  zone : ∀ rest, ':' :: rest <:+ text → '-' ∉ rest ∧ '\u2212' ∉ rest

instance : Decidable (Moderate text) :=
  decidable_of_iff ((Text.trimStart text).head? ≠ some '+' ∧ ∀ tail ∈ text.tails,
      (tail.head? = some '.' → (tail.tail.takeWhile Char.isDigit).length ≤ 6) ∧
      (tail.head? = some ':' → (Text.trimStart tail.tail).take 2 ≠ ['6', '0'] ∧
        '-' ∉ tail.tail ∧ '\u2212' ∉ tail.tail)) <| by
    constructor
    · rintro ⟨hyear, htails⟩
      exact ⟨hyear, fun rest hrest ↦ (htails ('.' :: rest) ((List.mem_tails _ _).2 hrest)).1 rfl,
        fun rest hrest ↦ ((htails (':' :: rest) ((List.mem_tails _ _).2 hrest)).2 rfl).1,
        fun rest hrest ↦ ((htails (':' :: rest) ((List.mem_tails _ _).2 hrest)).2 rfl).2⟩
    · refine fun h ↦ ⟨h.year, fun tail htail ↦ ?_⟩
      have htail := (List.mem_tails _ _).1 htail
      cases tail with
      | nil => exact ⟨nofun, nofun⟩
      | cons mark rest =>
        refine ⟨?_, ?_⟩
        · rintro ⟨⟩
          exact h.fraction rest htail
        · rintro ⟨⟩
          exact ⟨h.second rest htail, h.zone rest htail⟩

namespace Reader

/-! ### What readers ensure -/

/-- Whatever a reader makes of a text, it holds of that and of the text which is left. -/
def Ensures {α : Type} (reader : Reader α) (text : List Char) (holds : α → List Char → Prop) :
    Prop :=
  ∀ a rest, reader text = some (a, rest) → holds a rest

section Ensures

variable {α β : Type} {reader : Reader α} {next : α → Reader β}
  {middle : α → List Char → Prop} {holds : β → List Char → Prop}

theorem Ensures.bind (h : reader.Ensures text middle)
    (hnext : ∀ a left, middle a left → (next a).Ensures left holds) :
    (reader >>= next).Ensures text holds := by
  intro b rest hread
  cases hfirst : reader text with
  | none => rw [bind_eq_none hfirst] at hread; cases hread
  | some result =>
    obtain ⟨a, left⟩ := result
    rw [bind_eq hfirst] at hread
    exact hnext a left (h a left hfirst) b rest hread

theorem Ensures.imp {middle' : α → List Char → Prop} (h : reader.Ensures text middle)
    (himp : ∀ a left, middle a left → middle' a left) : reader.Ensures text middle' :=
  fun a left hread ↦ himp a left (h a left hread)

theorem ensures_pure (b : β) (text : List Char) :
    (pure b : Reader β).Ensures text fun b' rest ↦ b' = b ∧ rest = text := by
  rintro _ _ ⟨⟩
  exact ⟨rfl, rfl⟩

theorem ensures_lift (o : Option β) (text : List Char) :
    (liftM o : Reader β).Ensures text fun b rest ↦ o = some b ∧ rest = text := by
  intro b rest hread
  rw [lift_eq, Option.map_eq_some_iff] at hread
  obtain ⟨b', ho, hpair⟩ := hread
  obtain ⟨rfl, rfl⟩ := Prod.mk.inj hpair
  exact ⟨ho, rfl⟩

theorem ensures_guard (p : Prop) [Decidable p] (text : List Char) :
    (guard p : Reader Unit).Ensures text fun _ rest ↦ p ∧ rest = text := by
  intro _ rest hread
  unfold guard at hread
  split at hread
  · next hp =>
    cases hread
    exact ⟨hp, rfl⟩
  · cases hread

theorem ensures_get_bind {next : List Char → Reader β} (h : (next text).Ensures text holds) :
    (get >>= next).Ensures text holds := h

theorem ensures_set_bind {left : List Char} {next : PUnit → Reader β}
    (h : (next ⟨⟩).Ensures left holds) : (set left >>= next).Ensures text holds := h

theorem ensures_char (c : Char) (text : List Char) :
    (char c).Ensures text fun _ rest ↦ text = c :: rest := by
  intro _ rest hread
  cases text with
  | nil => cases hread
  | cons d left =>
    by_cases hd : d = c
    · subst hd
      rw [char_cons] at hread
      cases hread
      rfl
    · rw [char_eq_none hd] at hread
      cases hread

theorem ensures_char_bind {c : Char} {next : Unit → Reader β}
    (h : ∀ left, text = c :: left → (next ()).Ensures left holds) :
    (char c >>= next).Ensures text holds :=
  (ensures_char c text).bind fun _ left htext ↦ h left htext

end Ensures

/-! ### Parts -/

/-- Digits are taken off the front. -/
theorem ensures_digits (least most : Nat) (text : List Char) :
    (digits least most).Ensures text fun n rest ↦ ∃ taken, text = taken ++ rest ∧
      taken <+: text.take most ∧ (∀ c ∈ taken, c.isDigit = true) ∧ n = ofDigits taken := by
  intro n rest hread
  unfold digits at hread
  extract_lets taken at hread
  split at hread
  · cases hread
  · cases hread
    have hfront : taken <+: text.take most := List.takeWhile_prefix _
    have htext := List.prefix_iff_eq_append.1 (hfront.trans (List.take_prefix _ _))
    exact ⟨taken, htext.symm, hfront, fun _ ↦ List.mem_takeWhile_imp, rfl⟩

/-- So many digits stand for less than that power of ten. -/
theorem ensures_digits_lt (least most : Nat) (text : List Char) :
    (digits least most).Ensures text fun n rest ↦ rest <:+ text ∧ n < 10 ^ most := by
  refine (ensures_digits least most text).imp fun n rest hdigits ↦ ?_
  obtain ⟨taken, htext, hfront, hdigits, rfl⟩ := hdigits
  refine ⟨⟨taken, htext.symm⟩, ?_⟩
  calc
    ofDigits taken < 10 ^ taken.length := Number.ofDigits_lt hdigits
    _ ≤ 10 ^ most :=
      Nat.pow_le_pow_right (by decide) (hfront.length_le.trans (List.length_take_le _ _))

/-- Up to two digits are sixty only as it is written. -/
theorem ensures_digits_sixty (least : Nat) (text : List Char) :
    (digits least 2).Ensures text fun n rest ↦
      rest <:+ text ∧ (n = 60 → text.take 2 = ['6', '0']) := by
  refine (ensures_digits least 2 text).imp fun n rest hdigits ↦ ?_
  obtain ⟨taken, htext, hfront, hdigits, rfl⟩ := hdigits
  refine ⟨⟨taken, htext.symm⟩, fun hvalue ↦ ?_⟩
  have hmost : (text.take 2).length ≤ 2 := List.length_take_le _ _
  have hlength : taken.length = 2 := by
    have hle := hfront.length_le
    by_contra hother
    have hless := Number.ofDigits_lt hdigits
    have hpow : 10 ^ taken.length ≤ 10 ^ 1 := Nat.pow_le_pow_right (by decide) (by omega)
    omega
  rw [← hfront.eq_of_length_le (by omega)]
  obtain ⟨a, b, rfl⟩ := List.length_eq_two.1 hlength
  have ha : a.isDigit = true := hdigits a (by simp)
  have hb : b.isDigit = true := hdigits b (by simp)
  have hvalues : 10 * Number.digitValue a + Number.digitValue b = 60 := by
    simpa [Number.ofDigits_cons, ofDigits] using hvalue
  have hlow := Number.digitValue_lt ha
  have hlow' := Number.digitValue_lt hb
  have hsix : Number.digitValue a = 6 := by omega
  have hzero : Number.digitValue b = 0 := by omega
  rw [Number.eq_of_digitValue_eq ha (by decide : '6'.isDigit = true) hsix,
    Number.eq_of_digitValue_eq hb (by decide : '0'.isDigit = true) hzero]

theorem ensures_blanks (text : List Char) :
    blanks.Ensures text fun _ rest ↦ rest = Text.trimStart text := by
  rintro _ _ ⟨⟩
  rfl

theorem trimStart_suffix (text : List Char) : Text.trimStart text <:+ text :=
  List.dropWhile_suffix _

theorem ensures_part (text : List Char) :
    part.Ensures text fun n rest ↦
      rest <:+ text ∧ (n = 60 → (Text.trimStart text).take 2 = ['6', '0']) := by
  refine (ensures_blanks text).bind fun _ start hstart ↦ ?_
  subst hstart
  refine (ensures_digits_sixty 1 _).imp fun n rest hdigits ↦ ?_
  exact ⟨hdigits.1.trans (trimStart_suffix text), hdigits.2⟩

theorem splitSign_cases (text : List Char) :
    (∃ sign negative unsigned, text = sign :: unsigned ∧
      Number.splitSign text = (negative, unsigned) ∧ (sign ≠ '+' → negative = true)) ∨
      Number.splitSign text = (false, text) := by
  unfold Number.splitSign
  split
  · next rest => exact .inl ⟨'+', false, rest, rfl, rfl, fun hplus ↦ absurd rfl hplus⟩
  · next rest => exact .inl ⟨'-', true, rest, rfl, rfl, fun _ ↦ rfl⟩
  · exact .inr rfl

/-- A year has more than four digits only after a plus sign. -/
theorem ensures_year (text : List Char) :
    year.Ensures text fun y rest ↦
      rest <:+ text ∧ ((Text.trimStart text).head? ≠ some '+' → y ≤ 9999) := by
  have hstart := trimStart_suffix text
  refine (ensures_blanks text).bind fun _ start hblanks ↦ ?_
  subst hblanks
  refine ensures_get_bind ?_
  generalize Text.trimStart text = start at *
  rcases splitSign_cases start with ⟨sign, negative, unsigned, rfl, hsplit, hsign⟩ | hsplit
  · simp only [hsplit, List.length_cons, Nat.lt_succ_self, if_true]
    refine ensures_set_bind ?_
    refine (ensures_digits_lt _ _ _).bind fun n left hdigits ↦ ?_
    refine (ensures_pure _ _).imp fun y rest hpure ↦ ?_
    obtain ⟨rfl, rfl⟩ := hpure
    refine ⟨(hdigits.1.trans (List.suffix_cons _ _)).trans hstart, fun hplus ↦ ?_⟩
    rw [hsign (by simpa using hplus), Number.signed, if_pos rfl]
    omega
  · simp only [hsplit, Nat.lt_irrefl, if_false]
    refine (ensures_digits_lt _ _ _).bind fun n left hdigits ↦ ?_
    refine (ensures_pure _ _).imp fun y rest hpure ↦ ?_
    obtain ⟨rfl, rfl⟩ := hpure
    exact ⟨hdigits.1.trans hstart, fun _ ↦ by omega⟩

theorem ensures_date (text : List Char) :
    date.Ensures text fun d rest ↦
      rest <:+ text ∧ ((Text.trimStart text).head? ≠ some '+' → d.year ≤ 9999) := by
  refine (ensures_year text).bind fun y afterYear hyear ↦ ?_
  refine ensures_char_bind fun afterMark hmark ↦ ?_
  refine (ensures_part _).bind fun month afterMonth hmonth ↦ ?_
  refine ensures_char_bind fun afterMark' hmark' ↦ ?_
  refine (ensures_part _).bind fun day afterDay hday ↦ ?_
  refine (ensures_lift _ _).imp fun d rest hlift ↦ ?_
  obtain ⟨hdate, rfl⟩ := hlift
  subst hmark hmark'
  have hafterMonth := (hday.1.trans (List.suffix_cons '-' _)).trans hmonth.1
  refine ⟨(hafterMonth.trans (List.suffix_cons '-' _)).trans hyear.1, ?_⟩
  rw [Date.year_of_of?_eq_some hdate]
  exact hyear.2

theorem fraction_le {taken : List Char} (hdigits : ∀ c ∈ taken, c.isDigit = true)
    (hlength : taken.length ≤ 6) : ofDigits taken * tenTo (9 - taken.length) ≤ 999999000 := by
  have hthree : 10 ^ 3 ≤ 10 ^ (9 - taken.length) := Nat.pow_le_pow_right (by decide) (by omega)
  have hmost : ofDigits taken * 10 ^ (9 - taken.length) + 10 ^ (9 - taken.length) ≤ 10 ^ 9 := by
    calc
      _ = (ofDigits taken + 1) * 10 ^ (9 - taken.length) := (Nat.succ_mul _ _).symm
      _ ≤ 10 ^ taken.length * 10 ^ (9 - taken.length) :=
        Nat.mul_le_mul_right _ (Number.ofDigits_lt hdigits)
      _ = 10 ^ 9 := by rw [← pow_add, Nat.add_sub_cancel' (by omega)]
  change ofDigits taken * 10 ^ (9 - taken.length) ≤ 999999000
  omega

/-- Up to six digits of a fraction are whole microseconds. -/
theorem ensures_nanos (text : List Char) :
    nanos.Ensures text fun n rest ↦ rest <:+ text ∧
      ((∀ after, '.' :: after <:+ text → (after.takeWhile Char.isDigit).length ≤ 6) →
        n ≤ 999999000) := by
  refine ensures_get_bind ?_
  split
  · refine ensures_char_bind fun after hmark ↦ ?_
    subst hmark
    refine ensures_get_bind ?_
    refine (ensures_guard _ _).bind fun _ _ hguard ↦ ?_
    refine ensures_set_bind ?_
    refine (ensures_pure _ _).imp fun n rest hpure ↦ ?_
    obtain ⟨rfl, rfl⟩ := hpure
    refine ⟨(List.drop_suffix _ _).trans (List.suffix_cons _ _), fun hshort ↦ ?_⟩
    have hlength := hshort _ List.suffix_rfl
    rw [List.take_of_length_le (hlength.trans (by decide))]
    exact fraction_le (fun _ ↦ List.mem_takeWhile_imp) hlength
  · refine (ensures_pure _ _).imp fun n rest hpure ↦ ?_
    obtain ⟨rfl, rfl⟩ := hpure
    exact ⟨List.suffix_rfl, fun _ ↦ Nat.zero_le _⟩

/-- Only in a leap second there are more nanoseconds than are written. -/
theorem eq_of_clock_eq_some {hour minute second n : Nat} {date : Date}
    (h : clock hour minute second n date = some t) (hsecond : second ≠ 60) :
    t.date = date ∧ t.nanos = n := by
  obtain ⟨_, -, hclock⟩ := Option.bind_eq_some_iff.1 h
  rw [if_neg (by simpa using hsecond)] at hclock
  exact Timestamp.eq_of_of?_eq_some hclock

/-! ### Timestamps -/

/-- Nothing is blank before digits that are the first of a text. -/
theorem trimStart_of_take {count : Nat} {first : Char} {more : List Char}
    (h : text.take count = first :: more) (hfirst : Text.isBlank first = false) :
    Text.trimStart text = text := by
  cases text with
  | nil => simp at h
  | cons c rest =>
    cases count with
    | zero => simp at h
    | succ count =>
      obtain ⟨rfl, -⟩ := List.cons.inj h
      exact List.dropWhile_cons_of_neg (by simp [hfirst])

/-- What a moderate text reads as lies in the years of four digits and at a microsecond. -/
theorem ensures_timestamp {separator : Reader Unit}
    (hseparator : ∀ text, separator.Ensures text fun _ rest ↦ rest <:+ text) (withSeconds : Bool)
    (hmoderate : Moderate text) :
    (timestamp separator withSeconds).Ensures text fun t _ ↦
      t.date.year ≤ 9999 ∧ t.nanos ≤ 999999000 := by
  refine (ensures_date text).bind fun d afterDate hdate ↦ ?_
  refine (hseparator _).bind fun _ afterSeparator hafter ↦ ?_
  refine (ensures_part _).bind fun hour left hhour ↦ ?_
  refine ensures_char_bind fun afterHour hcolon ↦ ?_
  refine (ensures_part _).bind fun minute left' hminute ↦ ?_
  subst hcolon
  have hyear := hdate.2 hmoderate.year
  -- whatever is left is a suffix of the text, where the marks are moderate
  have hafterHour := (hhour.1.trans hafter).trans hdate.1
  have hsuffix := (hminute.1.trans (List.suffix_cons ':' _)).trans hafterHour
  cases withSeconds with
  | false =>
    refine (ensures_lift _ _).imp fun t rest hlift ↦ ?_
    obtain ⟨rfl, hnanos⟩ := eq_of_clock_eq_some hlift.1 (by decide)
    exact ⟨hyear, by omega⟩
  | true =>
    refine ensures_char_bind fun afterMinute hcolon ↦ ?_
    subst hcolon
    refine (ensures_part _).bind fun second afterSecond hsecond ↦ ?_
    refine (ensures_nanos _).bind fun n _ hnanos ↦ ?_
    refine (ensures_lift _ _).imp fun t rest hlift ↦ ?_
    have hafterSecond := (hsecond.1.trans (List.suffix_cons ':' _)).trans hsuffix
    obtain ⟨rfl, rfl⟩ :=
      eq_of_clock_eq_some hlift.1 (mt hsecond.2 (hmoderate.second _ hsuffix))
    exact ⟨hyear, hnanos.2 fun after hafter ↦ hmoderate.fraction after (hafter.trans hafterSecond)⟩

/-- A zone without a minus sign is not behind. -/
theorem ensures_offset (hsigns : '-' ∉ text ∧ '\u2212' ∉ text) :
    offset.Ensures text fun seconds _ ↦ 0 ≤ seconds := by
  refine ensures_get_bind ?_
  cases text with
  | nil =>
    rintro _ _ ⟨⟩
  | cons sign zone =>
    refine ensures_set_bind ?_
    split
    · refine (ensures_pure _ _).imp fun seconds rest hpure ↦ ?_
      exact hpure.1.ge
    · refine (ensures_guard _ _).bind fun _ _ hguard ↦ ?_
      refine (ensures_digits _ _ _).bind fun hours _ _ ↦ ?_
      refine ensures_char_bind fun _ _ ↦ ?_
      refine (ensures_digits _ _ _).bind fun minutes _ _ ↦ ?_
      refine (ensures_guard _ _).bind fun _ _ _ ↦ ?_
      refine (ensures_pure _ _).imp fun seconds rest hpure ↦ ?_
      have hsign : sign = '+' := by
        have hminus : sign ≠ '-' := fun h ↦ hsigns.1 (by simp [h])
        have hmark : sign ≠ '\u2212' := fun h ↦ hsigns.2 (by simp [h])
        simpa [hminus, hmark] using hguard.1
      rw [hpure.1, hsign]
      exact Int.natCast_nonneg _

theorem ensures_instant (hmoderate : Moderate text) :
    instant.Ensures text fun t _ ↦ t.date.year ≤ 9999 ∧ t.nanos ≤ 999999000 := by
  refine (ensures_digits_lt _ _ _).bind fun year left hyear ↦ ?_
  refine ensures_char_bind fun afterYear hmark ↦ ?_
  refine (ensures_digits_lt _ _ _).bind fun month left' hmonth ↦ ?_
  refine ensures_char_bind fun afterMonth hmark' ↦ ?_
  refine (ensures_digits_lt _ _ _).bind fun day afterDay hday ↦ ?_
  refine ensures_get_bind ?_
  subst hmark hmark'
  cases afterDay with
  | nil =>
    rintro _ _ ⟨⟩
  | cons mark time =>
    refine (ensures_guard _ _).bind fun _ _ hguard ↦ ?_
    refine ensures_set_bind ?_
    refine (ensures_digits_lt _ _ _).bind fun hour left hhour ↦ ?_
    refine ensures_char_bind fun afterHour hcolon ↦ ?_
    refine (ensures_digits_lt _ _ _).bind fun minute left' hminute ↦ ?_
    refine ensures_char_bind fun afterMinute hcolon' ↦ ?_
    refine (ensures_digits_sixty _ _).bind fun second afterSecond hsecond ↦ ?_
    refine (ensures_nanos _).bind fun n afterNanos hnanos ↦ ?_
    subst hcolon hcolon'
    have hafterMonth := hmonth.1.trans ((List.suffix_cons '-' _).trans hyear.1)
    have hafterDay := hday.1.trans ((List.suffix_cons '-' _).trans hafterMonth)
    have hafterHour := hhour.1.trans ((List.suffix_cons mark _).trans hafterDay)
    have hafterMinute := hminute.1.trans ((List.suffix_cons ':' _).trans hafterHour)
    have hafterSecond := hsecond.1.trans ((List.suffix_cons ':' _).trans hafterMinute)
    have hzone : '-' ∉ afterNanos ∧ '\u2212' ∉ afterNanos := by
      have hsubset := (hnanos.1.trans hsecond.1).subset
      obtain ⟨hminus, hmark⟩ := hmoderate.zone _ hafterMinute
      exact ⟨fun h ↦ hminus (hsubset h), fun h ↦ hmark (hsubset h)⟩
    refine (ensures_offset hzone).bind fun seconds _ hseconds ↦ ?_
    refine (ensures_lift _ _).bind fun d _ hdate ↦ ?_
    refine (ensures_lift _ _).bind fun early _ hclock ↦ ?_
    refine (ensures_lift _ _).imp fun t rest hbehind ↦ ?_
    obtain ⟨hyears, hsame⟩ := Timestamp.behind?_of_nonneg hseconds hbehind.1
    -- `Moderate` skips blanks before the seconds, and here there can be none
    have hsixty : second ≠ 60 := by
      rintro rfl
      have htwo := hsecond.2 rfl
      refine hmoderate.second _ hafterMinute ?_
      rw [trimStart_of_take htwo (by decide), htwo]
    obtain ⟨rfl, rfl⟩ := eq_of_clock_eq_some hclock.1 hsixty
    have hfour := Date.year_of_of?_eq_some hdate.1
    refine ⟨by omega, ?_⟩
    rw [hsame]
    exact hnanos.2 fun after hafter ↦ hmoderate.fraction after (hafter.trans hafterSecond)

theorem Ensures.whole {α : Type} {reader : Reader α} {holds : α → Prop}
    (h : reader.Ensures text fun a _ ↦ holds a) {a : α} (hread : reader.whole text = some a) :
    holds a := by
  unfold Reader.whole at hread
  split at hread
  · next result hresult =>
    obtain rfl := Option.some.inj hread
    exact h _ _ hresult
  · cases hread

end Reader

namespace Moderate

open Reader

theorem not_isBeyond_of_readInstant (hmoderate : Moderate text) (h : readInstant text = some t) :
    ¬t.IsBeyond := by
  obtain ⟨hyear, hnanos⟩ := (ensures_instant hmoderate).whole h
  exact Timestamp.not_isBeyond hyear hnanos

theorem not_isBeyond_of_readTimestamp (hmoderate : Moderate text)
    (h : readTimestamp text = some t) : ¬t.IsBeyond := by
  have hmark : ∀ text, (Reader.char 'T').Ensures text fun _ rest ↦ rest <:+ text := by
    intro text
    refine (ensures_char 'T' text).imp fun _ rest htext ↦ ?_
    rw [htext]
    exact List.suffix_cons _ _
  have hblanks : ∀ text, Reader.blanks.Ensures text fun _ rest ↦ rest <:+ text := by
    intro text
    refine (ensures_blanks text).imp fun _ rest hrest ↦ ?_
    rw [hrest]
    exact trimStart_suffix text
  have hforms : ∀ form ∈ timestampForms, form.Ensures text fun t _ ↦
      t.date.year ≤ 9999 ∧ t.nanos ≤ 999999000 := by
    intro form hform
    simp only [timestampForms, List.mem_cons, List.not_mem_nil, or_false] at hform
    rcases hform with rfl | rfl | rfl | rfl
    · exact ensures_timestamp hmark true hmoderate
    · exact ensures_timestamp hblanks true hmoderate
    · exact ensures_timestamp hmark false hmoderate
    · exact ensures_timestamp hblanks false hmoderate
  unfold readTimestamp at h
  split at h
  · next t' hfound =>
    obtain rfl := Option.some.inj h
    obtain ⟨form, hform, hread⟩ := List.exists_of_findSome?_eq_some hfound
    obtain ⟨hyear, hnanos⟩ := (hforms form hform).whole hread
    exact Timestamp.not_isBeyond hyear hnanos
  · obtain ⟨d, hdate, rfl⟩ := Option.map_eq_some_iff.1 h
    have hyear : (Text.trimStart text).head? ≠ some '+' → d.year ≤ 9999 :=
      ((ensures_date text).imp fun _ _ hd ↦ hd.2).whole hdate
    exact Timestamp.not_isBeyond (hyear hmoderate.year) (Nat.zero_le _)

end Moderate

example : Moderate "9999-12-31 23:59:59.999999".toList := by decide +kernel

example : ¬Moderate "9999-12-31T23:59:60".toList := by decide +kernel

end Calendar

end InventoryQuery
