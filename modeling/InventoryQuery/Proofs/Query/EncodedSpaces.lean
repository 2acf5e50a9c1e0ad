import InventoryQuery.Query.Parser

/-!
# Encoded spaces

A value is decoded by cutting it at each `%20` and putting its pieces together with spaces.  No two
places of `%20` overlap, so there is one way to cut a value, and decoding goes through it once from
its start.
-/

namespace InventoryQuery.Query

/-- What a text with encoded spaces stands for: its pieces between `%20`, in which there is no
further `%20`, with spaces in place of it. -/
inductive Decodes : List Char → List Char → Prop
  | last {piece : List Char} (hplain : ¬"%20".toList <:+: piece) : Decodes piece piece
  | cons {piece rest decoded : List Char} (hplain : ¬"%20".toList <:+: piece)
      (hrest : Decodes rest decoded) :
      Decodes (piece ++ ("%20".toList ++ rest)) (piece ++ ' ' :: decoded)

/-! ## Decoding finds the pieces -/

/-- A piece is not changed, at the end of the text or before a percent sign. -/
theorem decodeSpaces_append {piece rest : List Char} (hplain : ¬"%20".toList <:+: piece)
    (hrest : ∀ c ∈ rest.head?, c = '%') :
    decodeSpaces (piece ++ rest) = piece ++ decodeSpaces rest := by
  induction piece with
  | nil => rfl
  | cons c piece ih =>
    have hpiece := ih fun h ↦ hplain (List.infix_cons h)
    rw [List.cons_append, decodeSpaces, hpiece, List.cons_append]
    -- An encoded space that is not all in the piece would have its `2` or its `0` first in `rest`.
    rintro more rfl hmore
    cases piece with
    | nil =>
      have hhead : rest.head? = some '2' := congrArg List.head? hmore
      exact absurd (hrest '2' hhead) (by decide)
    | cons d piece =>
      rw [List.cons_append, List.cons.injEq] at hmore
      obtain ⟨rfl, hmore⟩ := hmore
      cases piece with
      | nil =>
        have hhead : rest.head? = some '0' := congrArg List.head? hmore
        exact absurd (hrest '0' hhead) (by decide)
      | cons d piece =>
        rw [List.cons_append, List.cons.injEq] at hmore
        obtain ⟨rfl, -⟩ := hmore
        exact hplain ⟨[], piece, rfl⟩

theorem decodeSpaces_eq_self {text : List Char} (h : ¬"%20".toList <:+: text) :
    decodeSpaces text = text := by
  have happend : decodeSpaces (text ++ []) = text ++ decodeSpaces [] :=
    decodeSpaces_append h (by simp)
  rwa [List.append_nil, decodeSpaces, List.append_nil] at happend

theorem decodeValue_eq_self {text : String} (h : ¬"%20".toList <:+: text.toList) :
    decodeValue text = text := by
  rw [decodeValue, decodeSpaces_eq_self h, String.ofList_toList]

theorem Decodes.decodeSpaces_eq {text decoded : List Char} (h : Decodes text decoded) :
    decodeSpaces text = decoded := by
  induction h with
  | last hplain => exact decodeSpaces_eq_self hplain
  | @cons piece rest decoded hplain _ ih =>
    rw [decodeSpaces_append hplain (by simp)]
    exact congrArg (piece ++ ' ' :: ·) ih

/-- A character that does not start an encoded space belongs to the first piece. -/
theorem Decodes.cons_char {c : Char} {text decoded : List Char} (h : Decodes text decoded)
    (hplain : ¬"%20".toList <+: c :: text) : Decodes (c :: text) (c :: decoded) := by
  cases h with
  | last hlast =>
    refine .last fun h ↦ ?_
    exact (List.infix_cons_iff.1 h).elim hplain hlast
  | @cons piece rest decoded hpiece hrest =>
    rw [← List.cons_append, ← List.cons_append]
    refine .cons (fun h ↦ ?_) hrest
    refine (List.infix_cons_iff.1 h).elim (fun hstart ↦ ?_) hpiece
    exact hplain (hstart.trans (List.prefix_append (c :: piece) ("%20".toList ++ rest)))

theorem decodes_decodeSpaces (text : List Char) : Decodes text (decodeSpaces text) := by
  fun_induction decodeSpaces text with
  | case1 => exact .last (by decide)
  | case2 rest ih =>
    have hnil : ¬"%20".toList <:+: [] := by decide
    exact .cons hnil ih
  | case3 c rest hother ih =>
    refine ih.cons_char ?_
    rintro ⟨more, hmore⟩
    obtain ⟨rfl, rfl⟩ := List.cons.inj hmore
    exact hother more rfl rfl

/-- The value of a text is the only one that it stands for. -/
theorem decodes_iff {text value : String} :
    Decodes text.toList value.toList ↔ value = decodeValue text := by
  constructor
  · intro h
    rw [decodeValue, h.decodeSpaces_eq, String.ofList_toList]
  · rintro rfl
    rw [decodeValue, String.toList_ofList]
    exact decodes_decodeSpaces text.toList

example : Decodes "rack%204%2520".toList "rack 4%2520".toList := decodes_iff.2 (by decide)

/-! ## What decoding leaves -/

theorem mem_of_mem_decodeSpaces {c : Char} {text : List Char} (hc : c ≠ ' ')
    (h : c ∈ decodeSpaces text) : c ∈ text := by
  fun_induction decodeSpaces text with
  | case1 => exact h
  | case2 rest ih =>
    rcases List.mem_cons.1 h with rfl | h
    · exact absurd rfl hc
    · simp [ih h]
  | case3 d rest _ ih =>
    rcases List.mem_cons.1 h with rfl | h
    · exact List.mem_cons_self
    · exact List.mem_cons_of_mem d (ih h)

/-- A beginning without spaces was there before spaces were decoded. -/
theorem prefix_of_prefix_decodeSpaces {first text : List Char} (hspace : ' ' ∉ first)
    (h : first <+: decodeSpaces text) : first <+: text := by
  induction first generalizing text with
  | nil => exact List.nil_prefix
  | cons c first ih =>
    rw [List.mem_cons, not_or] at hspace
    obtain ⟨hc, hspace⟩ := hspace
    unfold decodeSpaces at h
    split at h
    · exact h
    · exact absurd (List.cons_prefix_cons.1 h).1.symm hc
    · obtain ⟨rfl, hmore⟩ := List.cons_prefix_cons.1 h
      exact List.cons_prefix_cons.2 ⟨rfl, ih hspace hmore⟩

/-- No encoded space comes about by decoding others. -/
theorem noEncodedSpace_decodeSpaces (text : List Char) :
    ¬"%20".toList <:+: decodeSpaces text := by
  rw [show "%20".toList = ['%', '2', '0'] from rfl]
  fun_induction decodeSpaces text with
  | case1 => decide
  | case2 rest ih =>
    rw [List.infix_cons_iff]
    rintro (h | h)
    · exact absurd (List.cons_prefix_cons.1 h).1 (by decide)
    · exact ih h
  | case3 c rest hplain ih =>
    rw [List.infix_cons_iff]
    rintro (h | h)
    · obtain ⟨rfl, hmore⟩ := List.cons_prefix_cons.1 h
      have hspace : ' ' ∉ ['2', '0'] := by decide
      obtain ⟨more, rfl⟩ := prefix_of_prefix_decodeSpaces hspace hmore
      exact hplain more rfl rfl
    · exact ih h

end InventoryQuery.Query
