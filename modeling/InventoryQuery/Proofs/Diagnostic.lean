import InventoryQuery.Diagnostic
import InventoryQuery.Proofs.Number.Digits
import InventoryQuery.Proofs.Query.FieldList
import InventoryQuery.Proofs.Query.Span

/-!
# Where the caret stands

An excerpt names the line and the column at which a span starts, shows that line, and marks the span
below it.  The caret stands below the first character of the span as long as the number of the line
fits in its three places.
-/

namespace InventoryQuery

namespace Text

/-! ## The line around a place -/

/-- What is before a place on its line. -/
def lineBefore (before : List Char) : List Char :=
  (before.reverse.takeWhile (· != '\n')).reverse

/-- What is after a place on its line, up to the line feed and the carriage return before it. -/
def lineAfter : List Char → List Char
  | [] => []
  | '\n' :: _ => []
  | '\r' :: '\n' :: _ => []
  | c :: rest => c :: lineAfter rest

/-- The text starts with a character of a line: it is not at its end, nor at a line end. -/
structure StartsOnLine (text : List Char) : Prop where
  ne_nil : text ≠ []
  no_feed : ¬['\n'] <+: text
  no_return : ¬['\r', '\n'] <+: text

theorem lineBefore_of_notMem {before : List Char} (h : '\n' ∉ before) :
    lineBefore before = before := by
  unfold lineBefore
  have hall : ∀ c ∈ before.reverse, (c != '\n') = true := by
    intro c hc
    exact bne_iff_ne.2 fun hfeed ↦ h (hfeed ▸ List.mem_reverse.1 hc)
  rw [List.takeWhile_eq_self_iff.2 hall, List.reverse_reverse]

theorem lineBefore_append_cons (first before : List Char) :
    lineBefore (first ++ '\n' :: before) = lineBefore before := by
  unfold lineBefore
  rw [List.reverse_append, List.reverse_cons, List.append_assoc, List.takeWhile_append]
  split
  · next hlength =>
    rw [(List.takeWhile_prefix _).eq_of_length hlength]
    simp
  · rfl

theorem lineAfter_of_notMem {rest : List Char} (h : '\n' ∉ rest) : lineAfter rest = rest := by
  fun_induction lineAfter rest with
  | case1 => rfl
  | case2 => simp at h
  | case3 => simp at h
  | case4 c rest _ _ ih => rw [ih fun hmem ↦ h (List.mem_cons_of_mem c hmem)]

theorem dropCarriageReturn_append (first : List Char) {line : List Char} (h : line ≠ []) :
    dropCarriageReturn (first ++ line) = first ++ dropCarriageReturn line := by
  unfold dropCarriageReturn
  rw [List.getLast?_append_of_ne_nil first h, List.dropLast_append_of_ne_nil h]
  split
  · rfl
  · rfl

theorem lineAfter_cons {c : Char} {rest : List Char} (hfeed : c ≠ '\n')
    (hreturn : c = '\r' → rest.head? ≠ some '\n') :
    lineAfter (c :: rest) = c :: lineAfter rest := by
  rw [lineAfter.eq_def]
  split
  · next hnil => cases hnil
  · next heq =>
    cases heq
    exact absurd rfl hfeed
  · next heq =>
    cases heq
    exact absurd rfl (hreturn rfl)
  · next heq =>
    cases heq
    rfl

/-- What is shown of the line of a place goes on with the character at that place. -/
theorem StartsOnLine.head?_lineAfter {text : List Char} (h : StartsOnLine text) :
    (lineAfter text).head? = text.head? := by
  obtain ⟨hsome, hfeed, hreturn⟩ := h
  cases text with
  | nil => rfl
  | cons c rest =>
    rw [lineAfter_cons]
    · rfl
    · rintro rfl
      exact hfeed ⟨rest, rfl⟩
    · rintro rfl hhead
      obtain ⟨more, rfl⟩ := List.head?_eq_some_iff.1 hhead
      exact hreturn ⟨more, rfl⟩

theorem StartsOnLine.lineAfter_ne_nil {text : List Char} (h : StartsOnLine text) :
    lineAfter text ≠ [] := by
  intro hnil
  have hhead := h.head?_lineAfter
  rw [hnil] at hhead
  exact h.ne_nil (List.head?_eq_none_iff.1 hhead.symm)

theorem lineAfter_append_cons {line : List Char} (h : '\n' ∉ line) (rest : List Char) :
    lineAfter (line ++ '\n' :: rest) = dropCarriageReturn line := by
  induction line with
  | nil => rfl
  | cons c line ih =>
    rw [List.mem_cons, not_or] at h
    obtain ⟨hc, hline⟩ := h
    cases line with
    | nil =>
      by_cases hreturn : c = '\r'
      · rw [hreturn]
        rfl
      · rw [List.cons_append, lineAfter_cons (Ne.symm hc) fun heq ↦ absurd heq hreturn, ih hline]
        simp [dropCarriageReturn, hreturn]
    | cons d line =>
      rw [List.mem_cons, not_or] at hline
      have hnext : (d :: line ++ '\n' :: rest).head? ≠ some '\n' := by
        simpa using Ne.symm hline.1
      rw [List.cons_append, lineAfter_cons (Ne.symm hc) fun _ ↦ hnext,
        ih (by simpa [not_or] using hline)]
      exact (dropCarriageReturn_append [c] (List.cons_ne_nil d line)).symm

theorem lines_of_notMem {text : List Char} (h : '\n' ∉ text) (hsome : text ≠ []) :
    lines text = [text] := by
  rw [lines, cutAt_of_notMem h, linesOfPieces, if_neg (by simpa using hsome)]

theorem cutAt_ne_nil (mark : Char) (text : List Char) : cutAt mark text ≠ [] := by
  fun_induction cutAt mark text with simp

theorem lines_append_cons {line : List Char} (h : '\n' ∉ line) (rest : List Char) :
    lines (line ++ '\n' :: rest) = dropCarriageReturn line :: lines rest := by
  obtain ⟨next, more, hrest⟩ := List.exists_cons_of_ne_nil (cutAt_ne_nil '\n' rest)
  rw [lines, cutAt_append h, lines, hrest, linesOfPieces]

/-- The line of a place is what is before it and what is after it. -/
theorem getElem?_lines (before : List Char) {rest : List Char} (h : StartsOnLine rest) :
    (lines (before ++ rest))[before.count '\n']? = some (lineBefore before ++ lineAfter rest) := by
  -- Every line feed before the place leaves a line behind, and the last piece is on its line.
  induction before using cut_induction '\n' with
  | last before hbefore =>
    rw [List.count_eq_zero.2 hbefore, lineBefore_of_notMem hbefore]
    by_cases hfeed : '\n' ∈ rest
    · obtain ⟨line, more, rfl, hline⟩ := List.eq_append_cons_of_mem hfeed
      have hsome : line ≠ [] := by
        rintro rfl
        exact h.no_feed ⟨more, rfl⟩
      rw [← List.append_assoc, lines_append_cons (by simp [hbefore, hline]),
        lineAfter_append_cons hline, dropCarriageReturn_append before hsome]
      rfl
    · have hsome : before ++ rest ≠ [] := List.append_ne_nil_of_right_ne_nil before h.ne_nil
      rw [lines_of_notMem (by simp [hbefore, hfeed]) hsome, lineAfter_of_notMem hfeed]
      rfl
  | cons first before hfirst ih =>
    rw [List.append_assoc, List.cons_append, lines_append_cons hfirst, lineBefore_append_cons,
      List.count_append, List.count_eq_zero.2 hfirst, List.count_cons_self, Nat.zero_add,
      List.getElem?_cons_succ, ih]

end Text

/-! ## The line and the column -/

namespace Span

variable {offset here line column : Nat} {first rest : List Char}

theorem lineColumnFrom_of_le (h : offset ≤ here) (text : List Char) :
    lineColumnFrom offset here line column text = (line, column) := by
  cases text with
  | nil => rfl
  | cons c rest => rw [lineColumnFrom, if_pos h]

/-- On a line, only the column goes on. -/
theorem lineColumnFrom_append (hfirst : '\n' ∉ first) (hoffset : here + byteCount first ≤ offset) :
    lineColumnFrom offset here line column (first ++ rest) =
      lineColumnFrom offset (here + byteCount first) line (column + first.length) rest := by
  induction first generalizing here column with
  | nil => rfl
  | cons c first ih =>
    rw [List.mem_cons, not_or] at hfirst
    rw [byteCount_cons, ← Nat.add_assoc] at hoffset
    have hpos : 0 < c.utf8Size := c.utf8Size_pos
    have hfeed : ¬(c == '\n') = true := by simpa using Ne.symm hfirst.1
    rw [List.cons_append, lineColumnFrom, if_neg (by omega), if_neg hfeed, ih hfirst.2 hoffset,
      byteCount_cons, List.length_cons, Nat.add_assoc here, Nat.add_assoc column,
      Nat.add_comm 1 first.length]

theorem lineColumnFrom_feed (hoffset : here < offset) :
    lineColumnFrom offset here line column ('\n' :: rest) =
      lineColumnFrom offset (here + byteCount ['\n']) (line + 1) 1 rest := by
  rw [lineColumnFrom, if_neg (by omega)]
  rfl

theorem lineColumnFrom_byteCount (here line : Nat) (before rest : List Char) :
    lineColumnFrom (here + byteCount before) here line 1 (before ++ rest) =
      (line + before.count '\n', (Text.lineBefore before).length + 1) := by
  -- Each line starts in the first column, so the column stays fixed in the induction.
  induction before using Text.cut_induction '\n' generalizing here line with
  | last before hbefore =>
    rw [lineColumnFrom_append hbefore (Nat.le_refl _), lineColumnFrom_of_le (Nat.le_refl _),
      List.count_eq_zero.2 hbefore, Text.lineBefore_of_notMem hbefore, Nat.add_comm 1]
    rfl
  | cons first before hfirst ih =>
    have hcount : here + byteCount (first ++ '\n' :: before) =
        here + byteCount first + byteCount ['\n'] + byteCount before := by
      simp only [byteCount_append, byteCount_cons, byteCount_nil]
      omega
    have hpos : 0 < byteCount ['\n'] := by decide
    rw [hcount, List.append_assoc, List.cons_append,
      lineColumnFrom_append hfirst (by omega), lineColumnFrom_feed (by omega), ih,
      Text.lineBefore_append_cons, List.count_append, List.count_eq_zero.2 hfirst,
      List.count_cons_self, Nat.zero_add, Nat.add_assoc, Nat.add_comm 1]

theorem lineColumn_byteCount (before rest : List Char) :
    lineColumn (before ++ rest) (byteCount before) =
      (before.count '\n' + 1, (Text.lineBefore before).length + 1) := by
  have h := lineColumnFrom_byteCount 0 1 before rest
  rwa [Nat.zero_add, Nat.add_comm 1] at h

end Span

/-! ## The two lines -/

namespace Diagnostic

variable {source : String} {span : Span} {before covered after : List Char}

/-- What is left of a span on the line that is shown. -/
def leftOfSpan (before : List Char) : List Char :=
  Number.padded ' ' 3 (before.count '\n' + 1) ++ ['|', ' '] ++ Text.lineBefore before

/-- What is left of the caret on the line below. -/
def leftOfCaret (before : List Char) : List Char :=
  [' ', ' ', ' ', '|'] ++ List.replicate ((Text.lineBefore before).length + 1) ' '

/-- One tilde for each further character of the span on its line. -/
def tildes (covered after : List Char) : List Char :=
  (covered.take (Text.lineAfter (covered ++ after)).length).tail.map fun _ ↦ '~'

theorem underline_eq (hstart : span.start = byteCount before)
    (hstop : span.stop = byteCount (before ++ covered))
    (hline : Text.StartsOnLine (covered ++ after)) :
    underline (before ++ covered ++ after)
        (Text.lineBefore before ++ Text.lineAfter (covered ++ after))
        ((Text.lineBefore before).length + 1) span =
      List.replicate ((Text.lineBefore before).length + 1) ' ' ++ '^' :: tildes covered after := by
  have hpos : 0 < (Text.lineAfter (covered ++ after)).length :=
    List.length_pos_iff.2 hline.lineAfter_ne_nil
  have hend : min span.stop (byteCount (before ++ covered ++ after)) = span.stop := by
    rw [hstop, byteCount_append _ after]
    omega
  have hslice : Span.slice? (before ++ covered ++ after) ⟨span.start, span.stop⟩ =
      some covered := by
    refine Span.slice?_eq_some_iff.2 ⟨before, after, rfl, ?_, ?_⟩
    · rw [Nat.zero_add, hstart]
    · rw [hstop, hstart, byteCount_append]
  have hroom : (Text.lineBefore before ++ Text.lineAfter (covered ++ after)).length + 1 -
      min ((Text.lineBefore before).length + 1)
        ((Text.lineBefore before ++ Text.lineAfter (covered ++ after)).length + 1) =
      (Text.lineAfter (covered ++ after)).length := by
    rw [List.length_append]
    omega
  unfold underline tildes
  rw [hend, hslice, Option.getD_some, hroom, List.map_const', List.length_tail, List.length_take,
    Nat.min_comm (Text.lineAfter (covered ++ after)).length]

theorem excerpt_eq (htext : source.toList = before ++ covered ++ after)
    (hstart : span.start = byteCount before) (hstop : span.stop = byteCount (before ++ covered))
    (hline : Text.StartsOnLine (covered ++ after)) :
    excerpt source span = Text.joined "\n"
      ["  --> line " ++ number (before.count '\n' + 1) ++ ":" ++
          number ((Text.lineBefore before).length + 1),
        "   |", String.ofList (leftOfSpan before ++ Text.lineAfter (covered ++ after)),
        String.ofList (leftOfCaret before ++ '^' :: tildes covered after), ""] := by
  have hplace : Span.lineColumn source.toList span.start =
      (before.count '\n' + 1, (Text.lineBefore before).length + 1) := by
    rw [htext, hstart, List.append_assoc, Span.lineColumn_byteCount]
  have hshown : (Text.lines source.toList)[before.count '\n' + 1 - 1]? =
      some (Text.lineBefore before ++ Text.lineAfter (covered ++ after)) := by
    rw [htext, List.append_assoc, Nat.add_sub_cancel, Text.getElem?_lines before hline]
  unfold excerpt
  simp only [hplace, hshown]
  rw [htext, underline_eq hstart hstop hline, ← String.toList_inj]
  simp [Text.joined, lineNumber, leftOfSpan, leftOfCaret]

theorem length_leftOfSpan (before : List Char) :
    (leftOfSpan before).length =
      (leftOfCaret before).length + ((Number.natText (before.count '\n' + 1)).length - 3) := by
  simp only [leftOfSpan, leftOfCaret, Number.padded, List.length_append, List.length_replicate,
    List.length_cons, List.length_nil]
  omega

/-- An excerpt names the line and the column of a span, shows that line, and has one tilde after the
caret for each further character of the span on it.  The caret is below the first character of the
span if the number of the line is less than a thousand; it stands further left by every place that
the number takes beyond three. -/
theorem excerpt_marks_span (source : String) (span : Span) {before covered after : List Char}
    (htext : source.toList = before ++ covered ++ after) (hstart : span.start = byteCount before)
    (hstop : span.stop = byteCount (before ++ covered))
    (hline : Text.StartsOnLine (covered ++ after)) :
    excerpt source span = Text.joined "\n"
        ["  --> line " ++ number (before.count '\n' + 1) ++ ":" ++
            number ((Text.lineBefore before).length + 1),
          "   |", String.ofList (leftOfSpan before ++ Text.lineAfter (covered ++ after)),
          String.ofList (leftOfCaret before ++ '^' :: tildes covered after), ""] ∧
      (Text.lines source.toList)[before.count '\n']? =
        some (Text.lineBefore before ++ Text.lineAfter (covered ++ after)) ∧
      (Text.lineAfter (covered ++ after)).head? = (covered ++ after).head? ∧
      (leftOfSpan before).length =
        (leftOfCaret before).length + ((Number.natText (before.count '\n' + 1)).length - 3) ∧
      ((leftOfCaret before).length = (leftOfSpan before).length ↔
        before.count '\n' + 1 < 1000) := by
  have hlength := length_leftOfSpan before
  have hplaces : (Number.natText (before.count '\n' + 1)).length ≤ 3 ↔
      before.count '\n' + 1 < 10 ^ 3 := Number.length_natText_le_iff (by decide)
  refine ⟨excerpt_eq htext hstart hstop hline, ?_, hline.head?_lineAfter, hlength, ?_⟩
  · rw [htext, List.append_assoc, Text.getElem?_lines before hline]
  · rw [hlength]
    omega

/-- A span from the middle of a line with letters of two bytes to the next line. -/
theorem excerpt_marks_span_of_umlaut :
    let source := "ä\r\nbüxyz\r\nq end"
    excerpt source ⟨7, 13⟩ =
        Text.joined "\n" ["  --> line 2:3", "   |", "  2| büxyz", "   |   ^~~", ""] ∧
      "  2| büxyz".toList.idxOf 'x' = "   |   ^~~".toList.idxOf '^' := by
  intro source
  have htext : source.toList = "ä\r\nbü".toList ++ "xyz\r\nq".toList ++ " end".toList := by
    decide
  obtain ⟨hexcerpt, -⟩ := excerpt_marks_span source ⟨7, 13⟩ htext (by decide) (by decide)
    ⟨by decide, by decide, by decide⟩
  exact ⟨hexcerpt.trans (by decide +kernel), by decide⟩

/-- Behind a number of four places the caret is one place short of the span. -/
theorem excerpt_misses_span :
    let source := String.ofList (List.replicate 999 '\n' ++ ['x'])
    Span.slice? source.toList ⟨999, 1000⟩ = some ['x'] ∧
      excerpt source ⟨999, 1000⟩ =
        Text.joined "\n" ["  --> line 1000:1", "   |", "1000| x", "   | ^", ""] ∧
      "1000| x".toList.idxOf 'x' = 6 ∧ "   | ^".toList.idxOf '^' = 5 := by
  intro source
  have htext : source.toList = List.replicate 999 '\n' ++ ['x'] ++ [] := by
    rw [String.toList_ofList, List.append_nil]
  have hstart : 999 = byteCount (List.replicate 999 '\n') := by decide +kernel
  have hstop : 1000 = byteCount (List.replicate 999 '\n' ++ ['x']) := by decide +kernel
  refine ⟨?_, ?_, by decide, by decide⟩
  · exact Span.slice?_eq_some_iff.2 ⟨_, _, htext, hstart.trans (Nat.zero_add _).symm, rfl⟩
  · rw [excerpt_eq htext hstart hstop ⟨by decide, by decide, by decide⟩]
    decide +kernel

end Diagnostic

end InventoryQuery
