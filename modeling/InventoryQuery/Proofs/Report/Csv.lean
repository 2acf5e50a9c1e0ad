import InventoryQuery.Proofs.Calendar.Reading
import InventoryQuery.Proofs.Number.Positional
import InventoryQuery.Report.Basic

/-!
# Records that are read back

Comma-separated records lose nothing of an answer.  Whatever its texts hold, commas, quotes and line
feeds among it, a reader finds the same records with the same fields, and tells null from an empty
text and a number from a text of the same digits.
-/

namespace InventoryQuery

namespace Csv

/-! ## A reader -/

/-- A field of a record, and whether it stood in quotes. -/
structure Entry where
  quoted : Bool
  text : String
  deriving DecidableEq

/-- What has been read of a field. -/
inductive Place
  | start
  | bare (sofar : List Char)
  | inside (sofar : List Char)
  /-- Behind a quote that ends the field, unless another quote follows. -/
  | closed (sofar : List Char)

namespace Place

/-- The field, if it may end here. -/
def entry? : Place → Option Entry
  | .start => some ⟨false, ""⟩
  | .bare sofar => some ⟨false, String.ofList sofar⟩
  | .inside _ => none
  | .closed sofar => some ⟨true, String.ofList sofar⟩

/-- A character that belongs to the field.  Only a quote may follow the quote at its end. -/
def next? : Place → Char → Option Place
  | .start, c => some (if c = '\x22' then .inside [] else .bare [c])
  | .bare sofar, c => some (.bare (sofar ++ [c]))
  | .inside sofar, c => some (if c = '\x22' then .closed sofar else .inside (sofar ++ [c]))
  | .closed sofar, c => if c = '\x22' then some (.inside (sofar ++ [c])) else none

end Place

structure Reader where
  records : List (List Entry)
  entries : List Entry
  place : Place

namespace Reader

def next? (r : Reader) (c : Char) : Option Reader :=
  match r.place.entry?, c with
  | some entry, ',' => some { r with entries := r.entries ++ [entry], place := .start }
  | some entry, '\n' => some ⟨r.records ++ [r.entries ++ [entry]], [], .start⟩
  | _, c => (r.place.next? c).map ({ r with place := · })

def run? (r : Reader) (text : List Char) : Option Reader := text.foldlM next? r

end Reader

/-- The records of a text, each of which a line feed ends. -/
def read (text : String) : Option (List (List Entry)) :=
  match Reader.run? ⟨[], [], .start⟩ text.toList with
  | some ⟨records, [], .start⟩ => some records
  | _ => none

/-! ## Fields -/

namespace Reader

theorem run?_nil (r : Reader) : r.run? [] = some r := rfl

theorem run?_cons {r next : Reader} {c : Char} (h : r.next? c = some next) (rest : List Char) :
    r.run? (c :: rest) = next.run? rest := by
  rw [run?, List.foldlM_cons, h]
  rfl

theorem run?_append {r next : Reader} {first : List Char} (h : r.run? first = some next)
    (rest : List Char) : r.run? (first ++ rest) = next.run? rest := by
  unfold run? at h ⊢
  rw [List.foldlM_append, h]
  rfl

variable (records : List (List Entry)) (entries : List Entry)

/-- Between quotes every character is one of the field. -/
theorem run?_inside (sofar text : List Char) :
    run? ⟨records, entries, .inside sofar⟩
        (text.flatMap fun c ↦ if c == '\x22' then [c, c] else [c]) =
      some ⟨records, entries, .inside (sofar ++ text)⟩ := by
  induction text generalizing sofar with
  | nil =>
    rw [List.append_nil]
    rfl
  | cons c rest ih =>
    rw [List.append_cons, ← ih, List.flatMap_cons]
    by_cases hquote : c = '\x22'
    · subst hquote
      rfl
    · have hnext : next? ⟨records, entries, .inside sofar⟩ c =
          some ⟨records, entries, .inside (sofar ++ [c])⟩ := by
        simp [next?, Place.entry?, Place.next?, hquote]
      rw [if_neg (by simpa using hquote)]
      exact run?_cons hnext _

theorem run?_quote (s : String) :
    run? ⟨records, entries, .start⟩ (quote s).toList =
      some ⟨records, entries, .closed s.toList⟩ := by
  rw [quote, String.toList_ofList, List.cons_append]
  have hopened := run?_inside records entries [] s.toList
  exact run?_append hopened ['\x22']

theorem run?_bare {text : List Char} (h : ∀ c ∈ text, c ≠ ',' ∧ c ≠ '\n') (sofar : List Char) :
    run? ⟨records, entries, .bare sofar⟩ text = some ⟨records, entries, .bare (sofar ++ text)⟩ := by
  induction text generalizing sofar with
  | nil =>
    rw [List.append_nil]
    rfl
  | cons c rest ih =>
    obtain ⟨hc, hrest⟩ := List.forall_mem_cons.1 h
    have hnext : next? ⟨records, entries, .bare sofar⟩ c =
        some ⟨records, entries, .bare (sofar ++ [c])⟩ := by
      simp [next?, Place.entry?, Place.next?, hc]
    rw [run?_cons hnext, ih hrest, ← List.append_cons]

end Reader

/-- A text that is read as a field, wherever a field may start. -/
def Shows (text : String) (entry : Entry) : Prop :=
  ∀ records entries, ∃ place, place.entry? = some entry ∧
    Reader.run? ⟨records, entries, .start⟩ text.toList = some ⟨records, entries, place⟩

theorem shows_quote (s : String) : Shows (quote s) ⟨true, s⟩ := fun records entries ↦
  ⟨.closed s.toList, by rw [Place.entry?, String.ofList_toList],
    Reader.run?_quote records entries s⟩

theorem shows_plain {s : String} (h : needsQuotes s = false) : Shows s ⟨false, s⟩ := by
  intro records entries
  have hplain : ∀ c ∈ s.toList, c ≠ ',' ∧ c ≠ '\x22' ∧ c ≠ '\n' := by
    intro c hc
    have hnot := List.any_eq_false.1 h c hc
    simpa [and_assoc] using hnot
  cases htext : s.toList with
  | nil =>
    refine ⟨.start, ?_, rfl⟩
    rw [Place.entry?, ← String.ofList_toList (s := s), htext]
  | cons c rest =>
    rw [htext] at hplain
    obtain ⟨hc, hrest⟩ := List.forall_mem_cons.1 hplain
    have hnext : Reader.next? ⟨records, entries, .start⟩ c =
        some ⟨records, entries, .bare [c]⟩ := by
      simp [Reader.next?, Place.entry?, Place.next?, hc]
    refine ⟨.bare (c :: rest), ?_, ?_⟩
    · rw [Place.entry?, ← htext, String.ofList_toList]
    · rw [Reader.run?_cons hnext]
      exact Reader.run?_bare records entries (fun c hc ↦ ⟨(hrest c hc).1, (hrest c hc).2.2⟩) [c]

theorem shows_escape (s : String) : Shows (escape s) ⟨needsQuotes s, s⟩ := by
  unfold escape
  split
  · next h =>
    rw [h]
    exact shows_quote s
  · next h =>
    rw [Bool.not_eq_true] at h
    rw [h]
    exact shows_plain h

/-! ## Records -/

theorem run?_joined {texts : List String} {shown : List Entry}
    (h : List.Forall₂ Shows texts shown) (hsome : texts ≠ []) (records : List (List Entry))
    (entries : List Entry) :
    Reader.run? ⟨records, entries, .start⟩ ((Text.joined "," texts).toList ++ ['\n']) =
      some ⟨records ++ [entries ++ shown], [], .start⟩ := by
  induction h generalizing entries with
  | nil => exact absurd rfl hsome
  | @cons text entry texts shown hentry hrest ih =>
    obtain ⟨place, hplace, hrun⟩ := hentry records entries
    cases hrest with
    | nil =>
      have hend : Reader.next? ⟨records, entries, place⟩ '\n' =
          some ⟨records ++ [entries ++ [entry]], [], .start⟩ := by
        simp [Reader.next?, hplace]
      rw [Text.joined, Reader.run?_append hrun, Reader.run?_cons hend, Reader.run?_nil]
    | @cons next _ _ _ hnext hothers =>
      have hcomma : Reader.next? ⟨records, entries, place⟩ ',' =
          some ⟨records, entries ++ [entry], .start⟩ := by
        simp [Reader.next?, hplace]
      have hothers := ih (List.cons_ne_nil _ _) (entries ++ [entry])
      rw [Text.joined, String.toList_append, String.toList_append, List.append_assoc,
        List.append_assoc, Reader.run?_append hrun]
      rw [List.append_assoc] at hothers
      exact (Reader.run?_cons hcomma _).trans hothers

theorem run?_record {texts : List String} {shown : List Entry}
    (h : List.Forall₂ Shows texts shown) (hsome : texts ≠ []) (records : List (List Entry)) :
    Reader.run? ⟨records, [], .start⟩ (record texts).toList =
      some ⟨records ++ [shown], [], .start⟩ := by
  rw [record, String.toList_append]
  exact run?_joined h hsome records []

theorem run?_records {rows : List (List String)} {shown : List (List Entry)}
    (h : List.Forall₂ (List.Forall₂ Shows) rows shown) (hsome : ∀ row ∈ rows, row ≠ [])
    (records : List (List Entry)) :
    Reader.run? ⟨records, [], .start⟩ (String.join (rows.map record)).toList =
      some ⟨records ++ shown, [], .start⟩ := by
  induction h generalizing records with
  | nil => simp [Reader.run?_nil]
  | cons hrow _ ih =>
    obtain ⟨hfirst, hrest⟩ := List.forall_mem_cons.1 hsome
    have hrecord := run?_record hrow hfirst records
    rw [List.map_cons, String.join_cons, String.toList_append, Reader.run?_append hrecord,
      ih hrest, List.append_assoc]
    rfl

theorem read_records {rows : List (List String)} {shown : List (List Entry)}
    (h : List.Forall₂ (List.Forall₂ Shows) rows shown) (hsome : ∀ row ∈ rows, row ≠ []) :
    read (String.join (rows.map record)) = some shown := by
  rw [read, run?_records h hsome]
  rfl

/-! ## Texts of values -/

def isPlain (c : Char) : Bool := !(c == ',' || c == '\x22' || c == '\n')

theorem isPlain_of_isDigit {c : Char} (h : c.isDigit = true) : isPlain c = true := by
  have hother {mark : Char} (hmark : mark.isDigit = false) : (c == mark) = false := by
    rw [beq_eq_false_iff_ne]
    rintro rfl
    rw [h] at hmark
    cases hmark
  rw [isPlain, hother (by decide), hother (by decide), hother (by decide)]
  rfl

/-- A text that is a field as it is, and not an empty one. -/
def Plain (text : List Char) : Prop := text ≠ [] ∧ ∀ c ∈ text, isPlain c = true

namespace Plain

variable {text rest : List Char} {c : Char}

theorem of_digits (hsome : text ≠ []) (h : ∀ c ∈ text, c.isDigit = true) : Plain text :=
  ⟨hsome, fun c hc ↦ isPlain_of_isDigit (h c hc)⟩

theorem cons (hc : isPlain c = true) (h : Plain rest) : Plain (c :: rest) :=
  ⟨List.cons_ne_nil _ _, List.forall_mem_cons.2 ⟨hc, h.2⟩⟩

theorem append (h : Plain text) (hrest : Plain rest) : Plain (text ++ rest) :=
  ⟨List.append_ne_nil_of_left_ne_nil h.1 _,
    fun c hc ↦ (List.mem_append.1 hc).elim (h.2 c) (hrest.2 c)⟩

theorem marked (h : Plain text) (negative : Bool) : Plain (Number.marked negative text) := by
  cases negative with
  | false => exact h
  | true => exact cons rfl h

theorem int (i : Int) : Plain (Number.intText i) := by
  rw [Number.intText_eq_marked]
  exact (of_digits (Number.natText_ne_nil _) Number.isDigit_of_mem_natText).marked _

theorem padded {places n : Nat} : Plain (Date.padded places n) :=
  of_digits Date.padded_ne_nil Date.isDigit_of_mem_padded

theorem date (d : Date) : Plain d.toText := by
  have hyear : Plain (Date.yearText d.year) := by
    unfold Date.yearText
    split
    · exact cons rfl padded
    · split
      · exact cons rfl padded
      · exact padded
  exact (hyear.append (cons rfl padded)).append (cons rfl padded)

theorem timestamp (t : Timestamp) : Plain t.toText := by
  have hclock : Plain t.clockText :=
    (padded.append (cons rfl padded)).append (cons rfl padded)
  exact (date t.date).append (cons rfl hclock)

theorem float (x : Binary64) : ∃ text, x.toText = String.ofList text ∧ Plain text := by
  have hsigned {text : List Char} (h : Plain text) (negative : Bool) :
      ∃ marked, Binary64.withSign negative text = String.ofList marked ∧ Plain marked :=
    ⟨Number.marked negative text, rfl, h.marked negative⟩
  cases x with
  | nan => exact ⟨['N', 'a', 'N'], rfl, by unfold Plain; decide⟩
  | infinity negative => exact hsigned (by unfold Plain; decide) negative
  | finite negative significand shift hcanonical =>
    cases significand with
    | zero => exact hsigned (by unfold Plain; decide) negative
    | succ n =>
      obtain ⟨digits, exponent, hsome, hdigits, -, htext⟩ :=
        Binary64.exists_digits_toText hcanonical n.succ_pos negative
      obtain ⟨first, rest, hform, hfirst, hrest, -⟩ :=
        Binary64.exists_positional exponent hsome hdigits
      refine ⟨_, htext, marked ⟨?_, ?_⟩ negative⟩
      · rw [hform]
        exact List.cons_ne_nil _ _
      · rw [hform]
        refine List.forall_mem_cons.2 ⟨isPlain_of_isDigit hfirst, fun c hc ↦ ?_⟩
        rcases hrest c hc with hdigit | rfl
        · exact isPlain_of_isDigit hdigit
        · rfl

/-- What is shown of a value that is no text. -/
theorem value {v : Value} (hnull : v ≠ .null) (htext : ∀ s, v ≠ .text s) :
    ∃ text, v.toText = String.ofList text ∧ Plain text := by
  cases v with
  | null => exact absurd rfl hnull
  | text s => exact absurd rfl (htext s)
  | bool b =>
    cases b with
    | false => exact ⟨['f', 'a', 'l', 's', 'e'], rfl, by unfold Plain; decide⟩
    | true => exact ⟨['t', 'r', 'u', 'e'], rfl, by unfold Plain; decide⟩
  | int i => exact ⟨_, rfl, int _⟩
  | float x => exact float x
  | date d => exact ⟨_, rfl, date d⟩
  | timestamp t => exact ⟨_, rfl, timestamp t⟩
  | instant t => exact ⟨_, rfl, (timestamp t).append (by unfold Plain; decide)⟩

end Plain

/-! ## Answers -/

/-- What a cell holds, as far as it is shown. -/
inductive Content
  | null
  | text (s : String)
  | other (s : String)
  deriving DecidableEq

def Content.ofValue : Value → Content
  | .null => .null
  | .text s => .text s
  | v => .other v.toText

/-- What a field says that its cell holds. -/
def Entry.content (entry : Entry) : Content :=
  if entry.quoted then .text entry.text
  else if entry.text = "" then .null
  else .other entry.text

/-- The field that a value is shown in. -/
def Entry.ofValue : Value → Entry
  | .null => ⟨false, ""⟩
  | .text s => ⟨true, s⟩
  | v => ⟨false, v.toText⟩

theorem shows_other {s : String} (h : ∃ text, s = String.ofList text ∧ Plain text) :
    Shows (escape s) ⟨false, s⟩ ∧ Entry.content ⟨false, s⟩ = .other s := by
  obtain ⟨text, rfl, hsome, hplain⟩ := h
  have hquotes : needsQuotes (String.ofList text) = false := by
    rw [needsQuotes, String.toList_ofList, List.any_eq_false]
    intro c hc
    simpa [isPlain] using hplain c hc
  have hany : String.ofList text ≠ "" := by simpa using hsome
  refine ⟨?_, ?_⟩
  · rw [escape, hquotes, if_neg Bool.false_ne_true]
    exact shows_plain hquotes
  · simp [Entry.content, hany]

theorem shows_cell (v : Value) :
    Shows (cell v) (Entry.ofValue v) ∧ (Entry.ofValue v).content = Content.ofValue v := by
  cases v with
  | null => exact ⟨shows_plain rfl, rfl⟩
  | text s => exact ⟨shows_quote s, rfl⟩
  | _ => exact shows_other (Plain.value nofun nofun)

/-- An answer in comma-separated records is read as its tokens and one record for each of its rows,
in which null, texts and other values are told apart. -/
theorem read_csv_answer {a : Answer} (hheader : a.header ≠ [])
    (hwidth : ∀ row ∈ a.rows, row.length = a.header.length) :
    ∃ head, read (Format.csv.answer a) =
        some (head :: a.rows.map fun row ↦ row.map (Entry.ofValue ·.2)) ∧
      head.map (·.text) = a.header.map (·.1) ∧
      ∀ row ∈ a.rows, (row.map (Entry.ofValue ·.2)).map Entry.content =
        row.map (Content.ofValue ·.2) := by
  have htext : Format.csv.answer a =
      String.join ((a.header.map (escape ·.1) :: a.rows.map (·.map (cell ·.2))).map record) := by
    rw [Format.answer, List.map_cons, List.map_map]
    rfl
  have hhead : List.Forall₂ Shows (a.header.map (escape ·.1))
      (a.header.map fun column ↦ ⟨needsQuotes column.1, column.1⟩) := by
    rw [List.forall₂_map_left_iff, List.forall₂_map_right_iff, List.forall₂_same]
    exact fun column _ ↦ shows_escape column.1
  have hrows : List.Forall₂ (List.Forall₂ Shows) (a.rows.map (·.map (cell ·.2)))
      (a.rows.map (·.map (Entry.ofValue ·.2))) := by
    rw [List.forall₂_map_left_iff, List.forall₂_map_right_iff, List.forall₂_same]
    intro row _
    rw [List.forall₂_map_left_iff, List.forall₂_map_right_iff, List.forall₂_same]
    exact fun c _ ↦ (shows_cell c.2).1
  have hsome : ∀ row ∈ a.header.map (escape ·.1) :: a.rows.map (·.map (cell ·.2)), row ≠ [] := by
    refine List.forall_mem_cons.2 ⟨by simpa using hheader, ?_⟩
    rw [List.forall_mem_map]
    intro row hrow hnil
    have hlength := hwidth row hrow
    rw [List.map_eq_nil_iff.1 hnil] at hlength
    exact hheader (List.length_eq_zero_iff.1 hlength.symm)
  refine ⟨a.header.map fun column ↦ ⟨needsQuotes column.1, column.1⟩, ?_, ?_, ?_⟩
  · rw [htext]
    exact read_records (.cons hhead hrows) hsome
  · rw [List.map_map]
    rfl
  · intro row hrow
    rw [List.map_map]
    exact List.map_congr_left fun c _ ↦ (shows_cell c.2).2

/-- Commas, quotes and line feeds, an empty text beside null, and a number beside a text of it. -/
theorem read_csv_answer_of_marks :
    let a : Answer := ⟨[("a,b", "A"), ("c", "C")],
      [[("a,b", .text "x,\n\x22"), ("c", .null)], [("a,b", .int 5), ("c", .text "5")],
        [("a,b", .bool true), ("c", .text "")]]⟩
    Format.csv.answer a =
      "\x22a,b\x22,c\n\x22x,\n\x22\x22\x22,\n5,\x225\x22\ntrue,\x22\x22\n" ∧
    ∃ head, read (Format.csv.answer a) =
        some [head, [⟨true, "x,\n\x22"⟩, ⟨false, ""⟩], [⟨false, "5"⟩, ⟨true, "5"⟩],
          [⟨false, "true"⟩, ⟨true, ""⟩]] ∧
      head.map (·.text) = ["a,b", "c"] := by
  intro a
  obtain ⟨head, hread, htokens, -⟩ := read_csv_answer (a := a) (by decide) (by decide)
  refine ⟨by decide +kernel, head, ?_, htokens⟩
  rw [hread]
  rfl

end Csv

end InventoryQuery
