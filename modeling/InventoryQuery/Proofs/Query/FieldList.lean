import InventoryQuery.Proofs.Query.Cuts
import InventoryQuery.Query.Parser

/-!
# Field lists

A field list is read exactly when every piece between its commas is a name without blanks, with
nothing but blanks around it.
-/

namespace InventoryQuery

/-! ## Blanks at the ends -/

namespace Text

/-- What is trimmed off are blanks. -/
theorem exists_trim (text : List Char) :
    ∃ left right, text = left ++ trim text ++ right ∧ (∀ c ∈ left, isBlank c = true) ∧
      (∀ c ∈ right, isBlank c = true) ∧
      byteCount text - byteCount (trimStart text) = byteCount left := by
  have hstart : text = text.takeWhile isBlank ++ trimStart text :=
    List.takeWhile_append_dropWhile.symm
  have hend : trimStart text =
      trim text ++ ((trimStart text).reverse.takeWhile isBlank).reverse := by
    have hreverse := List.takeWhile_append_dropWhile (p := isBlank) (l := (trimStart text).reverse)
    have hlist := congrArg List.reverse hreverse
    rw [List.reverse_append, List.reverse_reverse] at hlist
    exact hlist.symm
  refine ⟨text.takeWhile isBlank, ((trimStart text).reverse.takeWhile isBlank).reverse, ?_,
    fun c hc ↦ List.mem_takeWhile_imp hc, fun c hc ↦ ?_, ?_⟩
  · rw [List.append_assoc, ← hend, ← hstart]
  · exact List.mem_takeWhile_imp (List.mem_reverse.1 hc)
  · have hcount := congrArg byteCount hstart
    rw [byteCount_append] at hcount
    omega

theorem trimStart_append {left rest : List Char} (hleft : ∀ c ∈ left, isBlank c = true)
    (hrest : ∀ c ∈ rest.head?, isBlank c = false) : trimStart (left ++ rest) = rest :=
  dropWhile_run hleft hrest

/-- Blanks around a name are trimmed off, and nothing else. -/
theorem trim_append {left name right : List Char} (hleft : ∀ c ∈ left, isBlank c = true)
    (hsome : name ≠ []) (hname : ∀ c ∈ name, isBlank c = false)
    (hright : ∀ c ∈ right, isBlank c = true) :
    trimStart (left ++ name ++ right) = name ++ right ∧ trim (left ++ name ++ right) = name := by
  have hhead : ∀ c ∈ (name ++ right).head?, isBlank c = false := by
    obtain ⟨d, rest, rfl⟩ := List.exists_cons_of_ne_nil hsome
    intro c hc
    cases hc
    exact hname d List.mem_cons_self
  have hstart : trimStart (left ++ name ++ right) = name ++ right := by
    rw [List.append_assoc]
    exact trimStart_append hleft hhead
  have hlast : ∀ c ∈ name.reverse.head?, isBlank c = false := fun c hc ↦
    hname c (List.mem_reverse.1 (List.mem_of_mem_head? hc))
  refine ⟨hstart, ?_⟩
  unfold trim trimEnd
  rw [hstart, List.reverse_append,
    dropWhile_run (fun c hc ↦ hright c (List.mem_reverse.1 hc)) hlast, List.reverse_reverse]

theorem trim_eq_nil_iff {text : List Char} : trim text = [] ↔ ∀ c ∈ text, isBlank c = true := by
  constructor
  · intro h c hc
    obtain ⟨left, right, htext, hleft, hright, -⟩ := exists_trim text
    rw [htext, h, List.append_nil, List.mem_append] at hc
    exact hc.elim (hleft c) (hright c)
  · intro h
    have hstart : trimStart text = [] := List.dropWhile_eq_nil_iff.2 h
    rw [trim, hstart]
    rfl

/-! ## Cutting at a mark -/

theorem cutAt_of_notMem {mark : Char} {text : List Char} (h : mark ∉ text) :
    cutAt mark text = [text] := by
  induction text with
  | nil => rfl
  | cons c rest ih =>
    rw [List.mem_cons, not_or] at h
    rw [cutAt, if_neg (by simpa using Ne.symm h.1), ih h.2]

theorem cutAt_append {mark : Char} {piece : List Char} (h : mark ∉ piece) (rest : List Char) :
    cutAt mark (piece ++ mark :: rest) = piece :: cutAt mark rest := by
  induction piece with
  | nil => simp [cutAt]
  | cons c piece ih =>
    rw [List.mem_cons, not_or] at h
    rw [List.cons_append, cutAt, if_neg (by simpa using Ne.symm h.1), ih h.2]

/-- A text is a piece without the mark, or such a piece, the mark and another text. -/
theorem cut_induction (mark : Char) {motive : List Char → Prop}
    (last : ∀ piece, mark ∉ piece → motive piece)
    (cons : ∀ piece rest, mark ∉ piece → motive rest → motive (piece ++ mark :: rest))
    (text : List Char) : motive text := by
  -- The induction is on the length of the text, which every mark cuts short.
  induction hlength : text.length using Nat.strongRecOn generalizing text with
  | _ n ih =>
    by_cases hmark : mark ∈ text
    · obtain ⟨piece, rest, rfl, hpiece⟩ := List.eq_append_cons_of_mem hmark
      refine cons piece rest hpiece (ih rest.length ?_ rest rfl)
      rw [← hlength, List.length_append, List.length_cons]
      omega
    · exact last text hmark

end Text

namespace Query

/-- A piece of text that starts at an offset is the name of a field, with blanks around it. -/
inductive NamesField : Nat → List Char → Located String → Prop
  | mk {here : Nat} {left name right : List Char}
      (hleft : ∀ c ∈ left, Text.isBlank c = true) (hsome : name ≠ [])
      (hname : ∀ c ∈ name, Text.isBlank c = false)
      (hright : ∀ c ∈ right, Text.isBlank c = true) :
      NamesField here (left ++ name ++ right)
        ⟨String.ofList name, here + byteCount left, here + byteCount left + byteCount name⟩

/-- The pieces of a text between its commas are names of fields. -/
inductive FieldList : Nat → List Char → List (Located String) → Prop
  | last {here : Nat} {piece : List Char} {field : Located String}
      (hpiece : NamesField here piece field) (hcomma : ',' ∉ piece) :
      FieldList here piece [field]
  | cons {here : Nat} {piece rest : List Char} {field : Located String}
      {fields : List (Located String)} (hpiece : NamesField here piece field)
      (hcomma : ',' ∉ piece) (hrest : FieldList (here + byteCount piece + 1) rest fields) :
      FieldList here (piece ++ ',' :: rest) (field :: fields)

theorem readField_eq_ok_iff {here : Nat} {piece : List Char} {field : Located String} :
    readField here piece = .ok field ↔ NamesField here piece field := by
  constructor
  · intro h
    obtain ⟨left, right, hpiece, hleft, hright, hcount⟩ := Text.exists_trim piece
    simp only [readField, hcount] at h
    split at h
    · cases h
    · next hsome =>
      split at h
      · cases h
      · next hname =>
        cases h
        have hname : ∀ c ∈ Text.trim piece, Text.isBlank c = false := by simpa using hname
        have hfield : NamesField here (left ++ Text.trim piece ++ right) _ :=
          .mk hleft (by simpa using hsome) hname hright
        rwa [← hpiece] at hfield
  · rintro ⟨hleft, hsome, hname, hright⟩
    next left name right =>
    obtain ⟨hstart, htrim⟩ := Text.trim_append hleft hsome hname hright
    have hcount : byteCount (left ++ name ++ right) - byteCount (name ++ right) =
        byteCount left := by
      simp only [byteCount_append]
      omega
    have hempty : ¬name.isEmpty = true := by simpa using hsome
    have hblank : ¬name.any Text.isBlank = true := by simpa using hname
    simp only [readField, hstart, htrim, hcount, if_neg hempty, if_neg hblank]

theorem readPieces_cons_eq_ok_iff {here : Nat} {piece : List Char} {pieces : List (List Char)}
    {fields : List (Located String)} :
    readPieces here (piece :: pieces) = .ok fields ↔
      ∃ field others, NamesField here piece field ∧
        readPieces (here + byteCount piece + 1) pieces = .ok others ∧ fields = field :: others := by
  rw [readPieces, bind_eq_ok_iff]
  apply exists_congr
  intro field
  rw [readField_eq_ok_iff, bind_eq_ok_iff]
  simp only [pure_eq_ok_iff, exists_and_left]

theorem readPieces_cutAt_eq_ok_iff {here : Nat} {text : List Char}
    {fields : List (Located String)} :
    readPieces here (Text.cutAt ',' text) = .ok fields ↔ FieldList here text fields := by
  constructor
  · intro h
    induction text using Text.cut_induction ',' generalizing here fields with
    | last piece hcomma =>
      rw [Text.cutAt_of_notMem hcomma, readPieces_cons_eq_ok_iff] at h
      obtain ⟨field, others, hfield, hothers, rfl⟩ := h
      cases hothers
      exact .last hfield hcomma
    | cons piece rest hcomma ih =>
      rw [Text.cutAt_append hcomma, readPieces_cons_eq_ok_iff] at h
      obtain ⟨field, others, hfield, hothers, rfl⟩ := h
      exact .cons hfield hcomma (ih hothers)
  · intro h
    induction h with
    | last hpiece hcomma =>
      rw [Text.cutAt_of_notMem hcomma, readPieces_cons_eq_ok_iff]
      exact ⟨_, [], hpiece, rfl, rfl⟩
    | cons hpiece hcomma _ ih =>
      rw [Text.cutAt_append hcomma, readPieces_cons_eq_ok_iff]
      exact ⟨_, _, hpiece, ih, rfl⟩

theorem NamesField.exists_not_blank {here : Nat} {piece : List Char} {field : Located String}
    (h : NamesField here piece field) : ∃ c ∈ piece, Text.isBlank c = false := by
  obtain ⟨hleft, hsome, hname, hright⟩ := h
  obtain ⟨c, hc⟩ := List.exists_mem_of_ne_nil _ hsome
  exact ⟨c, List.mem_append_left _ (List.mem_append_right _ hc), hname c hc⟩

/-- Some name is in a field list, so it is not blank. -/
theorem FieldList.trim_ne_nil {here : Nat} {text : List Char} {fields : List (Located String)}
    (h : FieldList here text fields) : Text.trim text ≠ [] := by
  obtain ⟨c, hc, hblank⟩ : ∃ c ∈ text, Text.isBlank c = false := by
    cases h with
    | last hpiece _ => exact hpiece.exists_not_blank
    | cons hpiece _ _ =>
      obtain ⟨c, hc, hblank⟩ := hpiece.exists_not_blank
      exact ⟨c, List.mem_append_left _ hc, hblank⟩
  intro hnil
  rw [Text.trim_eq_nil_iff.1 hnil c hc] at hblank
  cases hblank

theorem readFields_eq_ok_iff {text : List Char} {fields : List (Located String)} :
    readFields text = .ok fields ↔ FieldList 0 text fields := by
  unfold readFields
  split
  · next hblank =>
    constructor
    · intro h
      cases h
    · intro h
      exact absurd (List.isEmpty_iff.1 hblank) h.trim_ne_nil
  · exact readPieces_cutAt_eq_ok_iff

end Query

end InventoryQuery
