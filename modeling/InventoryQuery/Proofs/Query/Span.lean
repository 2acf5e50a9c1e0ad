import InventoryQuery.Proofs.Query.Cuts

/-!
# What spans cover

A span covers a part of a text if the text is cut in three by it.  This is when the part is the
slice of the text at the span, and parts of parts are covered by the same spans.
-/

namespace InventoryQuery.Span

variable {here n : Nat} {text covered first rest : List Char} {span : Span}

/-! ## Beginnings and ends -/

theorem dropBytes_byteCount_append (first rest : List Char) :
    dropBytes (byteCount first) (first ++ rest) = some rest := by
  induction first with
  | nil => rw [byteCount_nil, dropBytes, List.nil_append]
  | cons c first ih =>
    have hpos : 0 < c.utf8Size := c.utf8Size_pos
    obtain ⟨n, hn⟩ : ∃ n, c.utf8Size + byteCount first = n + 1 :=
      Nat.exists_eq_add_of_le' (by omega)
    have hle : c.utf8Size ≤ n + 1 := by omega
    have hrest : n + 1 - c.utf8Size = byteCount first := by omega
    rw [byteCount_cons, hn, List.cons_append, dropBytes, if_pos hle, hrest, ih]

theorem dropBytes_eq_some_iff :
    dropBytes n text = some rest ↔ ∃ first, text = first ++ rest ∧ byteCount first = n := by
  constructor
  · intro h
    fun_induction dropBytes n text with
    | case1 text =>
      cases h
      exact ⟨[], rfl, rfl⟩
    | case2 => cases h
    | case3 n c tail hle ih =>
      obtain ⟨first, rfl, hfirst⟩ := ih h
      refine ⟨c :: first, rfl, ?_⟩
      rw [byteCount_cons]
      omega
    | case4 => cases h
  · rintro ⟨first, rfl, rfl⟩
    exact dropBytes_byteCount_append first rest

theorem takeBytes_eq_some_iff :
    takeBytes n text = some first ↔ ∃ rest, text = first ++ rest ∧ byteCount first = n := by
  constructor
  · intro h
    fun_induction takeBytes n text generalizing first with
    | case1 text =>
      cases h
      exact ⟨text, rfl, rfl⟩
    | case2 => cases h
    | case3 n c tail hle ih =>
      obtain ⟨more, hmore, rfl⟩ := Option.map_eq_some_iff.1 h
      obtain ⟨rest, rfl, hcount⟩ := ih hmore
      refine ⟨rest, rfl, ?_⟩
      rw [byteCount_cons]
      omega
    | case4 => cases h
  · rintro ⟨rest, rfl, rfl⟩
    exact takeBytes_byteCount_append first rest

/-- Of two beginnings of a text, the one with fewer bytes is a beginning of the other. -/
theorem exists_append_of_byteCount_le {before after : List Char}
    (h : first ++ rest = before ++ after) (hle : byteCount first ≤ byteCount before) :
    ∃ middle, before = first ++ middle ∧ rest = middle ++ after := by
  rcases List.append_eq_append_iff.1 h with ⟨middle, hbefore, hrest⟩ | ⟨middle, hfirst, hafter⟩
  · exact ⟨middle, hbefore, hrest⟩
  · have hnone : middle = [] := by
      rw [hfirst, byteCount_append] at hle
      exact byteCount_eq_zero_iff.1 (by omega)
    subst hnone
    rw [List.append_nil] at hfirst
    exact ⟨[], by rw [hfirst, List.append_nil], hafter.symm⟩

/-! ## Parts of a text -/

/-- The span covers a part of a text that starts at the offset `here`. -/
def Covers (span : Span) (here : Nat) (text covered : List Char) : Prop :=
  ∃ first rest, text = first ++ covered ++ rest ∧ span.start = here + byteCount first ∧
    span.stop = span.start + byteCount covered

theorem covers_append (here : Nat) (first covered rest : List Char) :
    Covers ⟨here + byteCount first, here + byteCount first + byteCount covered⟩ here
      (first ++ covered ++ rest) covered := ⟨first, rest, rfl, rfl, rfl⟩

theorem covers_whole (here : Nat) (text : List Char) :
    Covers ⟨here, here + byteCount text⟩ here text text := ⟨[], [], by simp, rfl, rfl⟩

theorem slice?_eq_some_iff : slice? text span = some covered ↔ span.Covers 0 text covered := by
  unfold slice? Covers
  constructor
  · intro h
    split at h
    · obtain ⟨tail, htail, htake⟩ := Option.bind_eq_some_iff.1 h
      obtain ⟨first, rfl, hfirst⟩ := dropBytes_eq_some_iff.1 htail
      obtain ⟨rest, rfl, hcovered⟩ := takeBytes_eq_some_iff.1 htake
      exact ⟨first, rest, by rw [List.append_assoc], by omega, by omega⟩
    · cases h
  · rintro ⟨first, rest, rfl, hstart, hstop⟩
    have hwidth : span.stop - span.start = byteCount covered := by omega
    rw [if_pos (by omega), hstart, Nat.zero_add, List.append_assoc, dropBytes_byteCount_append,
      Option.bind_some, ← Nat.zero_add (byteCount first), ← hstart, hwidth,
      takeBytes_byteCount_append]

namespace Covers

theorem append (h : span.Covers here first covered) (rest : List Char) :
    span.Covers here (first ++ rest) covered := by
  obtain ⟨before, after, rfl, hstart, hstop⟩ := h
  exact ⟨before, after ++ rest, by rw [List.append_assoc _ after], hstart, hstop⟩

theorem append_left (first : List Char) (h : span.Covers (here + byteCount first) rest covered) :
    span.Covers here (first ++ rest) covered := by
  obtain ⟨before, after, rfl, hstart, hstop⟩ := h
  refine ⟨first ++ before, after, by simp only [List.append_assoc], ?_, hstop⟩
  rw [hstart, byteCount_append, Nat.add_assoc]

/-- What starts after a beginning of a text is covered in the rest of it. -/
theorem of_append (h : span.Covers here (first ++ rest) covered)
    (hstart : here + byteCount first ≤ span.start) :
    span.Covers (here + byteCount first) rest covered := by
  obtain ⟨before, after, htext, hbefore, hstop⟩ := h
  rw [List.append_assoc] at htext
  obtain ⟨middle, rfl, rfl⟩ := exists_append_of_byteCount_le htext (by omega)
  refine ⟨middle, after, by rw [List.append_assoc], ?_, hstop⟩
  rw [hbefore, byteCount_append, Nat.add_assoc]

theorem tail {c : Char} (h : span.Covers here text (c :: covered)) :
    Covers ⟨span.start + c.utf8Size, span.stop⟩ here text covered := by
  obtain ⟨before, after, rfl, hstart, hstop⟩ := h
  refine ⟨before ++ [c], after, by simp, ?_, ?_⟩
  · simp only [hstart, byteCount_append, byteCount_cons, byteCount_nil, Nat.add_zero, Nat.add_assoc]
  · rw [byteCount_cons] at hstop
    dsimp only
    omega

/-- A covered part lies within the text. -/
theorem bounds (h : span.Covers here text covered) :
    here ≤ span.start ∧ span.start ≤ span.stop ∧ span.stop ≤ here + byteCount text := by
  obtain ⟨before, after, rfl, hstart, hstop⟩ := h
  simp only [byteCount_append]
  omega

end Covers

/-- The span ends before the other one starts. -/
def Precedes (a b : Span) : Prop := a.stop ≤ b.start

/-- The span is one of whole characters, within the text. -/
structure IsIn (span : Span) (text : List Char) : Prop where
  start_le : span.start ≤ span.stop
  stop_le : span.stop ≤ byteCount text
  whole : ∃ covered, slice? text span = some covered

theorem isIn_iff : span.IsIn text ↔ ∃ covered, slice? text span = some covered := by
  refine ⟨IsIn.whole, fun ⟨covered, hcovered⟩ ↦ ?_⟩
  obtain ⟨-, hle, hstop⟩ := (slice?_eq_some_iff.1 hcovered).bounds
  exact ⟨hle, by rwa [Nat.zero_add] at hstop, covered, hcovered⟩

theorem Covers.isIn (h : span.Covers 0 text covered) : span.IsIn text :=
  isIn_iff.2 ⟨covered, slice?_eq_some_iff.2 h⟩

end InventoryQuery.Span
