import InventoryQuery.Calendar.Literal
import InventoryQuery.Proofs.Number.Digits
import InventoryQuery.Proofs.Query.Cuts

/-!
# Dates and timestamps that are read back

The text of a date is read as that date.  The text of a timestamp ends with whole seconds, and it is
read as the timestamp without the fraction of a second, with a zone only in the years that have four
digits.
-/

namespace InventoryQuery

open Number (ofDigits natText)

variable {rest : List Char}

theorem Text.isBlank_of_isDigit {c : Char} (h : c.isDigit = true) : isBlank c = false := by
  obtain ⟨hlow, hhigh⟩ := Bool.and_eq_true_iff.1 h
  have hlow : 48 ≤ c.toNat := of_decide_eq_true hlow
  have hhigh : c.toNat ≤ 57 := of_decide_eq_true hhigh
  simp only [isBlank, Bool.or_eq_false_iff, Bool.and_eq_false_iff, decide_eq_false_iff_not,
    beq_eq_false_iff_ne]
  omega

/-! ## Padded digits -/

namespace Date

variable {places n : Nat}

theorem isDigit_of_mem_padded : ∀ c ∈ padded places n, c.isDigit = true := by
  intro c hc
  rcases List.mem_append.1 hc with hc | hc
  · rw [List.eq_of_mem_replicate hc]
    decide
  · exact Number.isDigit_of_mem_natText c hc

@[simp]
theorem ofDigits_padded : ofDigits (padded places n) = n := by
  unfold padded Number.padded
  rw [Number.ofDigits_replicate_zero_append, Number.ofDigits_natText]

theorem length_padded (hplaces : 0 < places) (h : n < 10 ^ places) :
    (padded places n).length = places := by
  have hle := (Number.length_natText_le_iff hplaces).2 h
  unfold padded Number.padded
  rw [List.length_append, List.length_replicate]
  omega

theorem padded_ne_nil : padded places n ≠ [] := fun h ↦
  Number.natText_ne_nil n (List.append_eq_nil_iff.1 h).2

theorem isDigit_of_head?_padded : ∀ c ∈ (padded places n ++ rest).head?, c.isDigit = true := by
  intro c hc
  rw [List.head?_append_of_ne_nil _ padded_ne_nil] at hc
  exact isDigit_of_mem_padded c (List.mem_of_head? hc)

theorem isBlank_of_head?_padded :
    ∀ c ∈ (padded places n ++ rest).head?, Text.isBlank c = false := fun c hc ↦
  Text.isBlank_of_isDigit (isDigit_of_head?_padded c hc)

/-- A part is not blank after a mark that is not. -/
theorem isBlank_of_mem_part {mark : Char} (hmark : Text.isBlank mark = false) :
    ∀ c ∈ mark :: padded places n, Text.isBlank c = false :=
  List.forall_mem_cons.2 ⟨hmark, fun c hc ↦ Text.isBlank_of_isDigit (isDigit_of_mem_padded c hc)⟩

theorem yearText_of_four {y : Int} (h : 0 ≤ y ∧ y ≤ 9999) : yearText y = padded 4 y.natAbs := by
  rw [yearText, if_neg (by omega), if_neg (by omega)]

/-- A year that four digits do not hold has a sign. -/
theorem exists_sign_of_not_four {y : Int} (h : ¬(0 ≤ y ∧ y ≤ 9999)) :
    ∃ sign negative, yearText y = sign :: padded 4 y.natAbs ∧
      (∀ text, Number.splitSign (sign :: text) = (negative, text)) ∧
      Number.signed negative y.natAbs = y ∧ sign.isDigit = false ∧ Text.isBlank sign = false := by
  unfold yearText
  split
  · have hvalue : -(y.natAbs : Int) = y := by omega
    exact ⟨'-', true, rfl, fun _ ↦ rfl, hvalue, by decide, by decide⟩
  · have hvalue : (y.natAbs : Int) = y := by omega
    rw [if_pos (by omega)]
    exact ⟨'+', false, rfl, fun _ ↦ rfl, hvalue, by decide, by decide⟩

theorem isBlank_of_head?_toText (d : Date) (rest : List Char) :
    ∀ c ∈ (d.toText ++ rest).head?, Text.isBlank c = false := by
  unfold toText
  simp only [List.append_assoc, List.cons_append]
  by_cases hyear : 0 ≤ d.year ∧ d.year ≤ 9999
  · rw [yearText_of_four hyear]
    exact isBlank_of_head?_padded
  · obtain ⟨sign, -, htext, -, -, -, hblank⟩ := exists_sign_of_not_four hyear
    rw [htext]
    rintro c ⟨⟩
    exact hblank

theorem of?_self (d : Date) : of? d.year d.month d.day = some d := dif_pos d.valid

/-- Months and days have two digits. -/
theorem parts_lt (d : Date) : d.month < 100 ∧ d.day < 100 := by
  obtain ⟨-, ⟨-, hmonth⟩, -, hday⟩ := d.valid
  have hmost : daysIn d.year d.month ≤ 31 := by
    unfold daysIn
    split
    · split <;> omega
    · split <;> omega
  omega

end Date

namespace Calendar.Reader

/-! ## Steps -/

section Steps

variable {α β : Type} {reader : Reader α} {next : α → Reader β} {text : List Char} {a : α}

theorem bind_eq (h : reader text = some (a, rest)) : (reader >>= next) text = next a rest := by
  simp [bind, StateT.bind, h]

theorem bind_eq_none (h : reader text = none) : (reader >>= next) text = none := by
  simp [bind, StateT.bind, h]

theorem lift_eq (o : Option α) (text : List Char) :
    (liftM o : Reader α) text = o.map fun a ↦ (a, text) := by
  cases o with
  | none => rfl
  | some a => rfl

theorem char_cons (c : Char) (rest : List Char) : char c (c :: rest) = some ((), rest) := by
  simp [char]

theorem char_eq_none {c d : Char} (h : d ≠ c) : char c (d :: rest) = none := by
  simp [char, h]

theorem digits_append {least most : Nat} {taken : List Char}
    (hdigits : ∀ c ∈ taken, c.isDigit = true) (hleast : least ≤ taken.length)
    (hmost : taken.length ≤ most)
    (hstop : taken.length = most ∨ ∀ c ∈ rest.head?, c.isDigit = false) :
    digits least most (taken ++ rest) = some (ofDigits taken, rest) := by
  have hhead : ∀ c ∈ (rest.take (most - taken.length)).head?, c.isDigit = false := by
    intro c hc
    rcases hstop with hfull | hstop
    · rw [hfull, Nat.sub_self, List.take_zero] at hc
      cases hc
    · refine hstop c ?_
      rw [List.head?_take] at hc
      split at hc
      · cases hc
      · exact hc
  have htaken : ((taken ++ rest).take most).takeWhile Char.isDigit = taken := by
    rw [List.take_append, List.take_of_length_le hmost]
    exact takeWhile_run hdigits hhead
  simp only [digits, htaken, if_neg (Nat.not_lt.2 hleast), List.drop_left]

theorem digits_padded {places n : Nat} (hplaces : 0 < places) (h : n < 10 ^ places) :
    digits places places (Date.padded places n ++ rest) = some (n, rest) := by
  have hlength := Date.length_padded hplaces h
  rw [digits_append Date.isDigit_of_mem_padded hlength.ge hlength.le (.inl hlength),
    Date.ofDigits_padded]

theorem blanks_append {left : List Char} (hleft : ∀ c ∈ left, Text.isBlank c = true)
    (hrest : ∀ c ∈ rest.head?, Text.isBlank c = false) :
    blanks (left ++ rest) = some ((), rest) := by
  rw [blanks, Text.trimStart, dropWhile_run hleft hrest]

theorem blanks_eq (hrest : ∀ c ∈ rest.head?, Text.isBlank c = false) :
    blanks rest = some ((), rest) := by
  have hnone : ∀ c ∈ [], Text.isBlank c = true := List.forall_mem_nil _
  exact blanks_append hnone hrest

theorem part_padded {n : Nat} (h : n < 100) :
    part (Date.padded 2 n ++ rest) = some (n, rest) := by
  have hlength : (Date.padded 2 n).length = 2 := Date.length_padded (by decide) h
  unfold part
  rw [bind_eq (blanks_eq Date.isBlank_of_head?_padded),
    digits_append Date.isDigit_of_mem_padded (by omega) (by omega) (.inl hlength),
    Date.ofDigits_padded]

end Steps

/-! ## Dates -/

/-- A year with a sign takes all digits that there are, and one without a sign four. -/
theorem year_yearText (y : Int) (rest : List Char) :
    year (Date.yearText y ++ '-' :: rest) = some (y, '-' :: rest) := by
  have hdigits : ∀ c ∈ Date.padded 4 y.natAbs, c.isDigit = true := Date.isDigit_of_mem_padded
  unfold year
  by_cases hyear : 0 ≤ y ∧ y ≤ 9999
  · have hlength : (Date.padded 4 y.natAbs).length = 4 :=
      Date.length_padded (by decide) (by omega)
    have hread : digits 1 4 (Date.padded 4 y.natAbs ++ '-' :: rest) =
        some (y.natAbs, '-' :: rest) := by
      rw [digits_append hdigits (by omega) (by omega) (.inl hlength), Date.ofDigits_padded]
    have hunsigned : Number.splitSign (Date.padded 4 y.natAbs ++ '-' :: rest) =
        (false, Date.padded 4 y.natAbs ++ '-' :: rest) :=
      Number.splitSign_marked (Number.unsigned_of_isDigit Date.isDigit_of_head?_padded) false
    rw [Date.yearText_of_four hyear, bind_eq (blanks_eq Date.isBlank_of_head?_padded), bind_eq rfl]
    simp only [hunsigned, Nat.lt_irrefl, if_false]
    rw [bind_eq hread, Int.natAbs_of_nonneg hyear.1]
    rfl
  · obtain ⟨sign, negative, htext, hsplit, hvalue, -, hblank⟩ := Date.exists_sign_of_not_four hyear
    have hsome : 0 < (Date.padded 4 y.natAbs).length := List.length_pos_iff.2 Date.padded_ne_nil
    have hread : digits 1 (Date.padded 4 y.natAbs ++ '-' :: rest).length
        (Date.padded 4 y.natAbs ++ '-' :: rest) = some (y.natAbs, '-' :: rest) := by
      rw [digits_append hdigits hsome (by simp) (.inr (by simp)), Date.ofDigits_padded]
    rw [htext, List.cons_append, bind_eq (blanks_eq (by simpa using hblank)), bind_eq rfl]
    simp only [hsplit, List.length_cons, Nat.lt_succ_self, if_true]
    rw [bind_eq rfl, bind_eq hread, hvalue]
    rfl

theorem date_toText (d : Date) (rest : List Char) : date (d.toText ++ rest) = some (d, rest) := by
  obtain ⟨hmonth, hday⟩ := d.parts_lt
  unfold date Date.toText
  simp only [List.append_assoc, List.cons_append]
  rw [bind_eq (year_yearText d.year _),
    bind_eq (char_cons '-' _), bind_eq (part_padded hmonth), bind_eq (char_cons '-' _),
    bind_eq (part_padded hday), lift_eq, Date.of?_self, Option.map_some]

end Calendar.Reader

theorem Calendar.readDate_toText (d : Date) : readDate d.toText = some d := by
  have hread := Reader.date_toText d []
  rw [List.append_nil] at hread
  rw [readDate, Reader.whole, hread]

/-! ## Timestamps -/

namespace Timestamp

/-- The timestamp without the fraction of a second, with its leap second if it has one. -/
def wholeSeconds (t : Timestamp) : Timestamp where
  date := t.date
  seconds := t.seconds
  nanos := t.nanos - t.nanos % second
  time := by
    obtain ⟨hseconds, hnanos⟩ := t.time
    exact ⟨hseconds, by omega⟩

/-- Hours, minutes and seconds have two digits. -/
theorem parts_lt (t : Timestamp) : t.seconds / 3600 < 100 ∧ t.seconds / 60 % 60 < 100 ∧
    t.seconds % 60 + t.nanos / second < 100 := by
  obtain ⟨hseconds, hnanos⟩ := t.time
  have hone : t.nanos / second < 2 := (Nat.div_lt_iff_lt_mul (by decide)).2 (by omega)
  omega

theorem of?_self (t : Timestamp) : of? t.date t.seconds t.nanos = some t := dif_pos t.time

/-- The parts that a timestamp is written with make up its whole seconds. -/
theorem clock_wholeSeconds (t : Timestamp) :
    Calendar.Reader.clock (t.seconds / 3600) (t.seconds / 60 % 60)
      (t.seconds % 60 + t.nanos / second) 0 t.date = some t.wholeSeconds := by
  obtain ⟨hseconds, hnanos⟩ := t.time
  have hself : of? t.date t.seconds (t.nanos - t.nanos % second) = some t.wholeSeconds :=
    t.wholeSeconds.of?_self
  have hhour : t.seconds / 3600 < 24 := by omega
  have hminute : t.seconds / 60 % 60 < 60 := Nat.mod_lt _ (by decide)
  have hsecond : t.seconds % 60 < 60 := Nat.mod_lt _ (by decide)
  have hstart : 3600 * (t.seconds / 3600) + 60 * (t.seconds / 60 % 60) + t.seconds % 60 =
      t.seconds := by omega
  unfold Calendar.Reader.clock
  rcases Nat.lt_or_ge t.nanos second with hplain | hleap
  · rw [Nat.mod_eq_of_lt hplain, Nat.sub_self] at hself
    have hne : (t.seconds % 60 == 60) = false := beq_eq_false_iff_ne.2 (Nat.ne_of_lt hsecond)
    rw [Nat.div_eq_of_lt hplain]
    simp [hhour, hminute, Nat.le_of_lt hsecond, hne, hstart, hself]
  · obtain ⟨hbound, hlast⟩ := hnanos.resolve_left (Nat.not_lt.2 hleap)
    have hone : t.nanos / second = 1 :=
      (Nat.div_eq_iff (by decide)).2 ⟨by omega, by omega⟩
    have hfraction : t.nanos - t.nanos % second = second := by
      have hdivMod := Nat.div_add_mod t.nanos second
      rw [hone] at hdivMod
      omega
    rw [hfraction] at hself
    rw [hlast] at hstart
    simp [hone, hlast, hhour, hminute, hstart, hself]

/-- Nothing is lost exactly where there is no fraction of a second. -/
theorem compare_wholeSeconds (t : Timestamp) :
    t.compare t.wholeSeconds = .eq ↔ t.nanos % second = 0 := by
  have hdate : t.date.compare t.date = .eq := by simp [Date.compare]
  have hnanos : Ord.compare t.nanos (t.nanos - t.nanos % second) = .eq ↔ t.nanos % second = 0 := by
    rw [Nat.compare_eq_eq]
    have hle : t.nanos % second ≤ t.nanos := Nat.mod_le _ _
    omega
  simp [compare, wholeSeconds, hdate, hnanos]

end Timestamp

namespace Calendar.Reader

theorem nanos_eq_zero (h : rest.head? ≠ some '.') : nanos rest = some (0, rest) := by
  have hpoint : (rest.head? == some '.') = false := beq_eq_false_iff_ne.2 h
  unfold nanos
  rw [bind_eq rfl]
  simp only [hpoint, Bool.false_eq_true, if_false]
  rfl

theorem toText_eq (t : Timestamp) (rest : List Char) :
    t.toText ++ rest = t.date.toText ++ ' ' :: (Date.padded 2 (t.seconds / 3600) ++
      ':' :: (Date.padded 2 (t.seconds / 60 % 60) ++
        ':' :: (Date.padded 2 (t.seconds % 60 + t.nanos / Timestamp.second) ++ rest))) := by
  simp only [Timestamp.toText, Timestamp.clockText, List.append_assoc, List.cons_append]

/-- The form with blanks and seconds is the one that a timestamp is written in. -/
theorem timestamp_blanks_toText (withSeconds : Bool) (t : Timestamp)
    (hrest : rest.head? ≠ some '.') :
    timestamp blanks withSeconds (t.toText ++ rest) =
      if withSeconds then some (t.wholeSeconds, rest)
      else (clock (t.seconds / 3600) (t.seconds / 60 % 60) 0 0 t.date).map fun early ↦
        (early, ':' :: (Date.padded 2 (t.seconds % 60 + t.nanos / Timestamp.second) ++ rest)) := by
  obtain ⟨hhour, hminute, hsecond⟩ := t.parts_lt
  have hblank (text : List Char) : blanks (' ' :: (Date.padded 2 (t.seconds / 3600) ++ text)) =
      some ((), Date.padded 2 (t.seconds / 3600) ++ text) := by
    have hspace : ∀ c ∈ [' '], Text.isBlank c = true := by decide
    exact blanks_append hspace Date.isBlank_of_head?_padded
  rw [toText_eq]
  unfold timestamp
  rw [bind_eq (date_toText _ _), bind_eq (hblank _), bind_eq (part_padded hhour),
    bind_eq (char_cons ':' _), bind_eq (part_padded hminute)]
  cases withSeconds with
  | false => exact lift_eq _ _
  | true =>
    simp only [if_true]
    rw [bind_eq (char_cons ':' _), bind_eq (part_padded hsecond), bind_eq (nanos_eq_zero hrest),
      lift_eq, t.clock_wholeSeconds]
    rfl

theorem timestamp_char_toText (withSeconds : Bool) (t : Timestamp) (rest : List Char) :
    timestamp (char 'T') withSeconds (t.toText ++ rest) = none := by
  rw [toText_eq]
  unfold timestamp
  rw [bind_eq (date_toText _ _), bind_eq_none (char_eq_none (by decide))]

/-! ## Timestamps with a zone -/

/-- The zone of an instant, as it is written. -/
def zone : List Char := ['+', '0', '0', ':', '0', '0']

theorem offset_nil : offset [] = none := rfl

theorem offset_zone : offset zone = some (0, []) := by decide

/-- Up to its zone an instant is read where the year has four digits. -/
theorem instant_toText (t : Timestamp) (hrest : rest.head? ≠ some '.') :
    instant (t.toText ++ rest) =
      if 0 ≤ t.date.year ∧ t.date.year ≤ 9999 then
        (offset rest).bind fun result ↦
          (t.wholeSeconds.behind? result.1).map fun shifted ↦ (shifted, result.2)
      else none := by
  obtain ⟨hhour, hminute, hsecond⟩ := t.parts_lt
  obtain ⟨hmonth, hday⟩ := t.date.parts_lt
  rw [toText_eq, Date.toText]
  simp only [List.append_assoc, List.cons_append]
  unfold instant
  split
  · next hyear =>
    have hvalue : ((t.date.year.natAbs : Nat) : Int) = t.date.year :=
      Int.natAbs_of_nonneg hyear.1
    rw [Date.yearText_of_four hyear, bind_eq (digits_padded (by decide) (by omega)),
      bind_eq (char_cons '-' _), bind_eq (digits_padded (by decide) hmonth),
      bind_eq (char_cons '-' _), bind_eq (digits_padded (by decide) hday), bind_eq rfl]
    dsimp only
    rw [bind_eq rfl, bind_eq rfl, bind_eq (digits_padded (by decide) hhour),
      bind_eq (char_cons ':' _), bind_eq (digits_padded (by decide) hminute),
      bind_eq (char_cons ':' _), bind_eq (digits_padded (by decide) hsecond),
      bind_eq (nanos_eq_zero hrest)]
    cases hoffset : offset rest with
    | none => rw [bind_eq_none hoffset, Option.bind_none]
    | some result =>
      obtain ⟨seconds, left⟩ := result
      have hdate : (liftM (Date.of? t.date.year.natAbs t.date.month t.date.day) : Reader Date)
          left = some (t.date, left) := by
        rw [lift_eq, hvalue, Date.of?_self, Option.map_some]
      have hclock : (liftM (clock (t.seconds / 3600) (t.seconds / 60 % 60)
          (t.seconds % 60 + t.nanos / Timestamp.second) 0 t.date) : Reader Timestamp) left =
            some (t.wholeSeconds, left) := by
        rw [lift_eq, t.clock_wholeSeconds, Option.map_some]
      rw [bind_eq hoffset, bind_eq hdate, bind_eq hclock, lift_eq, Option.bind_some]
  · next hyear =>
    -- The sign is no digit.
    obtain ⟨sign, -, htext, -, -, hsign, -⟩ := Date.exists_sign_of_not_four hyear
    rw [htext, List.cons_append, bind_eq_none]
    simp [digits, hsign]

end Calendar.Reader

theorem Timestamp.behind?_zero (t : Timestamp) : t.behind? 0 = some t := by
  have hseconds := t.time.1
  unfold behind?
  extract_lets seconds
  rw [if_neg (by omega), if_pos (by omega)]
  exact t.of?_self

namespace Calendar

/-- A timestamp is not taken for the date that it starts with. -/
theorem readDate_timestamp (t : Timestamp) (rest : List Char) :
    readDate (t.toText ++ rest) = none := by
  rw [readDate, Reader.whole, Reader.toText_eq, Reader.date_toText]

theorem readTimestamp_toText (t : Timestamp) : readTimestamp t.toText = some t.wholeSeconds := by
  have hnil : [].head? ≠ some '.' := by decide
  have hchar := Reader.timestamp_char_toText true t []
  have hblank := Reader.timestamp_blanks_toText true t hnil
  rw [List.append_nil] at hchar hblank
  simp [readTimestamp, timestampForms, List.findSome?, Reader.whole, hchar, hblank]

/-- Without a zone no text is an instant. -/
theorem readInstant_toText (t : Timestamp) : readInstant t.toText = none := by
  have hnil : [].head? ≠ some '.' := by decide
  have hread := Reader.instant_toText t hnil
  rw [List.append_nil, Reader.offset_nil, Option.bind_none, ite_self] at hread
  rw [readInstant, Reader.whole, hread]

/-- With a zone no text is a timestamp. -/
theorem readTimestamp_zoned (t : Timestamp) : readTimestamp (t.toText ++ Reader.zone) = none := by
  have hzone : Reader.zone.head? ≠ some '.' := by decide
  have hnone : ∀ form ∈ timestampForms, form.whole (t.toText ++ Reader.zone) = none := by
    intro form hform
    simp only [timestampForms, List.mem_cons, List.not_mem_nil, or_false] at hform
    rcases hform with rfl | rfl | rfl | rfl
    · rw [Reader.whole, Reader.timestamp_char_toText]
    · rw [Reader.whole, Reader.timestamp_blanks_toText true t hzone]
      rfl
    · rw [Reader.whole, Reader.timestamp_char_toText]
    · rw [Reader.whole, Reader.timestamp_blanks_toText false t hzone, if_neg Bool.false_ne_true]
      cases Reader.clock (t.seconds / 3600) (t.seconds / 60 % 60) 0 0 t.date with
      | none => rfl
      | some early => rfl
  rw [readTimestamp, List.findSome?_eq_none_iff.2 hnone, readDate_timestamp]
  rfl

theorem readInstant_zoned (t : Timestamp) : readInstant (t.toText ++ Reader.zone) =
    if 0 ≤ t.date.year ∧ t.date.year ≤ 9999 then some t.wholeSeconds else none := by
  have hzone : Reader.zone.head? ≠ some '.' := by decide
  have hread := Reader.instant_toText t hzone
  rw [Reader.offset_zone, Option.bind_some, Timestamp.behind?_zero, Option.map_some] at hread
  rw [readInstant, Reader.whole, hread]
  by_cases hyear : 0 ≤ t.date.year ∧ t.date.year ≤ 9999
  · rw [if_pos hyear, if_pos hyear]
  · rw [if_neg hyear, if_neg hyear]

end Calendar

end InventoryQuery
