import InventoryQuery.Proofs.Success
import InventoryQuery.Query.Token
import Mathlib.Data.List.TakeWhile

/-!
# How texts are cut

The tokens of a text by what they are: quoted texts between two quotes of one sort, and words that
cannot be made longer.  Tokens are found exactly when no quote is left open, and they are the only
ones.
-/

namespace InventoryQuery

/-! ## Runs -/

section Runs

variable {α : Type} {p : α → Bool} {first rest : List α}

/-- A run ends where the test fails for the first time. -/
theorem takeWhile_run (hfirst : ∀ a ∈ first, p a = true) (hrest : ∀ a ∈ rest.head?, p a = false) :
    (first ++ rest).takeWhile p = first := by
  rw [List.takeWhile_append_of_pos hfirst]
  cases rest with
  | nil => simp
  | cons a rest =>
    have ha : p a = false := hrest a rfl
    simp [ha]

theorem dropWhile_run (hfirst : ∀ a ∈ first, p a = true) (hrest : ∀ a ∈ rest.head?, p a = false) :
    (first ++ rest).dropWhile p = rest := by
  rw [List.dropWhile_append_of_pos hfirst]
  cases rest with
  | nil => rfl
  | cons a rest =>
    have ha : p a = false := hrest a rfl
    simp [ha]

theorem head?_dropWhile_eq_false (list : List α) :
    ∀ a ∈ (list.dropWhile p).head?, p a = false := by
  have hnot := List.head?_dropWhile_not p list
  intro a ha
  rw [Option.mem_def.1 ha] at hnot
  simpa using hnot

end Runs

/-- What holds of the characters of a text is decided by going through the text, and never by
going through all characters that there are. -/
instance (priority := high) Text.decidableForallMem (p : Char → Prop) [DecidablePred p]
    (text : List Char) : Decidable (∀ c ∈ text, p c) :=
  List.decidableBAll p text

/-! ## Counting bytes -/

@[simp]
theorem byteCount_nil : byteCount [] = 0 := rfl

@[simp]
theorem byteCount_cons (c : Char) (rest : List Char) :
    byteCount (c :: rest) = c.utf8Size + byteCount rest := rfl

@[simp]
theorem byteCount_append (first rest : List Char) :
    byteCount (first ++ rest) = byteCount first + byteCount rest := by
  induction first with
  | nil => simp
  | cons c first ih => rw [List.cons_append, byteCount_cons, byteCount_cons, ih, Nat.add_assoc]

@[simp]
theorem byteCount_eq_zero_iff {text : List Char} : byteCount text = 0 ↔ text = [] := by
  cases text with
  | nil => simp
  | cons c rest =>
    have hpos : 0 < c.utf8Size := c.utf8Size_pos
    simp
    omega

/-- The bytes of a beginning of a text are that beginning. -/
theorem Span.takeBytes_byteCount_append (first rest : List Char) :
    takeBytes (byteCount first) (first ++ rest) = some first := by
  induction first with
  | nil => rw [byteCount_nil, takeBytes]
  | cons c first ih =>
    have hpos : 0 < c.utf8Size := c.utf8Size_pos
    obtain ⟨n, hn⟩ : ∃ n, c.utf8Size + byteCount first = n + 1 :=
      Nat.exists_eq_add_of_le' (by omega)
    have hle : c.utf8Size ≤ n + 1 := by omega
    have hrest : n + 1 - c.utf8Size = byteCount first := by omega
    rw [byteCount_cons, hn, List.cons_append, takeBytes, if_pos hle, hrest, ih]
    rfl

namespace Token

/-! ## Quotes and tokens -/

/-- Every quote outside of a quoted text has a second one like it, which ends the quoted text. -/
inductive QuotesClosed : List Char → Prop
  | nil : QuotesClosed []
  | plain {c : Char} {rest : List Char} (hc : isQuote c = false) (hrest : QuotesClosed rest) :
      QuotesClosed (c :: rest)
  | quoted {quote : Char} {inside after : List Char} (hquote : isQuote quote = true)
      (hinside : quote ∉ inside) (hafter : QuotesClosed after) :
      QuotesClosed (quote :: inside ++ quote :: after)

/-- The tokens of a text that starts at an offset. -/
inductive Cuts : Nat → List Char → List Token → Prop
  | nil {here : Nat} : Cuts here [] []
  | space {here : Nat} {c : Char} {rest : List Char} {tokens : List Token}
      (hc : isSpace c = true) (hrest : Cuts (here + c.utf8Size) rest tokens) :
      Cuts here (c :: rest) tokens
  | quoted {here : Nat} {quote : Char} {inside after : List Char} {tokens : List Token}
      (hquote : isQuote quote = true) (hinside : quote ∉ inside)
      (hafter : Cuts (here + byteCount (quote :: inside ++ [quote])) after tokens) :
      Cuts here (quote :: inside ++ quote :: after)
        (⟨true, String.ofList inside, here, here + byteCount (quote :: inside ++ [quote])⟩ ::
          tokens)
  | word {here : Nat} {word after : List Char} {tokens : List Token} (hsome : word ≠ [])
      (hword : ∀ c ∈ word, isWordChar c = true)
      (hend : ∀ c ∈ after.head?, isWordChar c = false)
      (hafter : Cuts (here + byteCount word) after tokens) :
      Cuts here (word ++ after)
        (⟨false, String.ofList word, here, here + byteCount word⟩ :: tokens)

/-- A quoted text and what is after it. -/
theorem quoted_eq_append (quote : Char) (inside after : List Char) :
    quote :: inside ++ quote :: after = quote :: inside ++ [quote] ++ after := by simp

/-! ## Cutting step by step -/

theorem isSpace_eq_false_of_isQuote {c : Char} (h : isQuote c = true) : isSpace c = false := by
  unfold isQuote at h
  unfold isSpace
  simp only [Bool.or_eq_true, beq_iff_eq] at h
  rcases h with rfl | rfl
  · rfl
  · rfl

theorem isQuote_eq_false_of_isSpace {c : Char} (h : isSpace c = true) : isQuote c = false := by
  by_contra hquote
  rw [isSpace_eq_false_of_isQuote (by simpa using hquote)] at h
  cases h

theorem isWordChar_iff {c : Char} :
    isWordChar c = true ↔ isSpace c = false ∧ isQuote c = false := by
  simp [isWordChar]

theorem scanFrom_space {here : Nat} {c : Char} {rest : List Char} (hc : isSpace c = true) :
    scanFrom here (c :: rest) = scanFrom (here + c.utf8Size) rest := by
  rw [scanFrom, if_pos hc]

/-- A quote with a second one like it, at the end of a run of other characters. -/
theorem span_quoted {quote : Char} {inside : List Char} (hinside : quote ∉ inside)
    (after : List Char) :
    (inside ++ quote :: after).takeWhile (· != quote) = inside ∧
      (inside ++ quote :: after).dropWhile (· != quote) = quote :: after := by
  have hrun : ∀ c ∈ inside, (c != quote) = true := by
    intro c hc
    simpa using fun heq : c = quote ↦ hinside (heq ▸ hc)
  have hend : ∀ c ∈ (quote :: after).head?, (c != quote) = false := by simp
  exact ⟨takeWhile_run hrun hend, dropWhile_run hrun hend⟩

theorem scanFrom_quoted {here : Nat} {quote : Char} {inside : List Char}
    (hquote : isQuote quote = true) (hinside : quote ∉ inside) (after : List Char) :
    scanFrom here (quote :: inside ++ quote :: after) =
      (scanFrom (here + byteCount (quote :: inside ++ [quote])) after).map
        (⟨true, String.ofList inside, here, here + byteCount (quote :: inside ++ [quote])⟩ ::
          ·) := by
  obtain ⟨htake, hdrop⟩ := span_quoted hinside after
  have hstop : here + quote.utf8Size + byteCount inside + quote.utf8Size =
      here + byteCount (quote :: inside ++ [quote]) := by
    simp only [List.cons_append, byteCount_cons, byteCount_append, byteCount_nil]
    omega
  rw [List.cons_append, scanFrom, if_neg (by simp [isSpace_eq_false_of_isQuote hquote]),
    if_pos hquote]
  split
  · next hnone =>
    rw [hdrop] at hnone
    cases hnone
  · next quote' after' hfound =>
    rw [hdrop] at hfound
    cases hfound
    simp only [htake, hstop]

theorem scanFrom_word {here : Nat} {word after : List Char} (hsome : word ≠ [])
    (hword : ∀ c ∈ word, isWordChar c = true)
    (hend : ∀ c ∈ after.head?, isWordChar c = false) :
    scanFrom here (word ++ after) =
      (scanFrom (here + byteCount word) after).map
        (⟨false, String.ofList word, here, here + byteCount word⟩ :: ·) := by
  obtain ⟨c, rest, rfl⟩ := List.exists_cons_of_ne_nil hsome
  obtain ⟨hspace, hquote⟩ := isWordChar_iff.1 (hword c List.mem_cons_self)
  have hrest : ∀ d ∈ rest, isWordChar d = true := fun d hd ↦ hword d (List.mem_cons_of_mem c hd)
  rw [List.cons_append, scanFrom, if_neg (by simp [hspace]), if_neg (by simp [hquote]),
    takeWhile_run hrest hend, dropWhile_run hrest hend]

theorem word_append_rest (c : Char) (rest : List Char) :
    c :: rest = (c :: rest.takeWhile isWordChar) ++ rest.dropWhile isWordChar := by
  rw [List.cons_append, List.takeWhile_append_dropWhile]

theorem isWordChar_of_mem_word {c : Char} {rest : List Char} (hc : isWordChar c = true) :
    ∀ d ∈ c :: rest.takeWhile isWordChar, isWordChar d = true := by
  intro d hd
  rcases List.mem_cons.1 hd with rfl | hd
  · exact hc
  · exact List.mem_takeWhile_imp hd

/-! ## Tokens and their derivations -/

theorem cuts_of_scanFrom {here : Nat} {text : List Char} :
    ∀ {tokens : List Token}, scanFrom here text = .ok tokens → Cuts here text tokens := by
  fun_induction scanFrom here text with
  | case1 here =>
    rintro tokens ⟨⟩
    exact .nil
  | case2 here c rest hc ih => exact fun h ↦ .space hc (ih h)
  | case3 => exact fun h ↦ nomatch h
  | case4 here c rest hspace hquote inside quote after hfound stop =>
    rename_i ih
    intro tokens h
    obtain ⟨others, hothers, rfl⟩ := map_eq_ok_iff.1 h
    -- What ends the quoted text is the quote that it began with.
    obtain rfl : quote = c := by
      have hhead : (quote != c) = false :=
        head?_dropWhile_eq_false rest quote (by rw [hfound]; rfl)
      simpa using hhead
    have hrest : rest = inside ++ quote :: after := by
      rw [← hfound]
      exact List.takeWhile_append_dropWhile.symm
    have hinside : quote ∉ inside := by
      intro hmem
      simpa using List.mem_takeWhile_imp hmem
    have hstop : stop = here + byteCount (quote :: inside ++ [quote]) := by
      simp only [stop, List.cons_append, byteCount_cons, byteCount_append, byteCount_nil]
      omega
    rw [hrest, hstop]
    exact .quoted hquote hinside (hstop ▸ ih hothers)
  | case5 here c rest hspace hquote word stop =>
    rename_i ih
    intro tokens h
    obtain ⟨others, hothers, rfl⟩ := map_eq_ok_iff.1 h
    have hc : isWordChar c = true :=
      isWordChar_iff.2 ⟨by simpa using hspace, by simpa using hquote⟩
    rw [word_append_rest c rest]
    exact .word (List.cons_ne_nil c _) (isWordChar_of_mem_word hc) (head?_dropWhile_eq_false rest)
      (ih hothers)

theorem scanFrom_eq_ok_iff {here : Nat} {text : List Char} {tokens : List Token} :
    scanFrom here text = .ok tokens ↔ Cuts here text tokens := by
  constructor
  · exact cuts_of_scanFrom
  · intro h
    induction h with
    | nil => rw [scanFrom]
    | space hc _ ih => rw [scanFrom_space hc, ih]
    | quoted hquote hinside _ ih =>
      rw [scanFrom_quoted hquote hinside, ih]
      rfl
    | word hsome hword hend _ ih =>
      rw [scanFrom_word hsome hword hend, ih]
      rfl

/-- Where no word goes on, what comes after a text that has tokens is scanned by itself. -/
theorem Cuts.scanFrom_append {here : Nat} {first rest : List Char} {tokens : List Token}
    (h : Cuts here first tokens) (hend : ∀ c ∈ rest.head?, isWordChar c = false) :
    scanFrom here (first ++ rest) =
      (scanFrom (here + byteCount first) rest).map (tokens ++ ·) := by
  induction h with
  | nil => exact (congrFun Except.map_id _).symm
  | space hc _ ih => rw [List.cons_append, scanFrom_space hc, ih, byteCount_cons, Nat.add_assoc]
  | @quoted here quote inside after tokens hquote hinside _ ih =>
    have htext : quote :: inside ++ quote :: after ++ rest =
        quote :: inside ++ quote :: (after ++ rest) := List.append_assoc _ _ _
    rw [htext, scanFrom_quoted hquote hinside, ih, map_map_eq, quoted_eq_append quote inside after,
      byteCount_append _ after, Nat.add_assoc]
    rfl
  | @word here word after tokens hsome hword hafter _ ih =>
    have hnext : ∀ c ∈ (after ++ rest).head?, isWordChar c = false := by
      intro c hc
      cases after with
      | nil => exact hend c hc
      | cons d after => exact hafter c hc
    rw [List.append_assoc, scanFrom_word hsome hword hnext, ih, map_map_eq, byteCount_append,
      Nat.add_assoc]
    rfl

/-- A text is cut in one way only. -/
theorem Cuts.unique {here : Nat} {text : List Char} {tokens tokens' : List Token}
    (h : Cuts here text tokens) (h' : Cuts here text tokens') : tokens = tokens' := by
  rw [← scanFrom_eq_ok_iff] at h h'
  rw [h] at h'
  exact Except.ok.inj h'

/-! ## Open quotes -/

theorem QuotesClosed.of_plain {text : List Char} (h : ∀ c ∈ text, isQuote c = false) :
    QuotesClosed text := by
  induction text with
  | nil => exact .nil
  | cons c rest ih =>
    obtain ⟨hc, hrest⟩ := List.forall_mem_cons.1 h
    exact .plain hc (ih hrest)

theorem QuotesClosed.append {first rest : List Char} (hfirst : QuotesClosed first)
    (hrest : QuotesClosed rest) : QuotesClosed (first ++ rest) := by
  induction hfirst with
  | nil => exact hrest
  | plain hc _ ih => exact .plain hc ih
  | @quoted quote inside after hquote hinside _ ih =>
    have htext : quote :: inside ++ quote :: after ++ rest =
        quote :: inside ++ quote :: (after ++ rest) := List.append_assoc _ _ _
    rw [htext]
    exact .quoted hquote hinside ih

theorem QuotesClosed.of_append {first rest : List Char} (hfirst : ∀ c ∈ first, isQuote c = false)
    (h : QuotesClosed (first ++ rest)) : QuotesClosed rest := by
  induction first with
  | nil => exact h
  | cons c first ih =>
    have hc : isQuote c = false := hfirst c List.mem_cons_self
    rw [List.cons_append] at h
    generalize htext : c :: (first ++ rest) = text at h
    cases h with
    | nil => cases htext
    | plain _ hrest =>
      cases htext
      exact ih (fun d hd ↦ hfirst d (List.mem_cons_of_mem c hd)) hrest
    | quoted hquote _ _ =>
      rw [← (List.cons.inj htext).1, hc] at hquote
      cases hquote

theorem QuotesClosed.of_cons_quote {quote : Char} {rest : List Char}
    (hquote : isQuote quote = true) (h : QuotesClosed (quote :: rest)) :
    ∃ inside after, rest = inside ++ quote :: after ∧ quote ∉ inside ∧ QuotesClosed after := by
  generalize htext : quote :: rest = text at h
  cases h with
  | nil => cases htext
  | plain hc _ =>
    cases htext
    rw [hquote] at hc
    cases hc
  | quoted _ hinside hafter =>
    cases htext
    exact ⟨_, _, rfl, hinside, hafter⟩

/-- There are tokens exactly where no quote is left open. -/
theorem exists_cuts_iff {here : Nat} {text : List Char} :
    (∃ tokens, Cuts here text tokens) ↔ QuotesClosed text := by
  constructor
  · rintro ⟨tokens, h⟩
    induction h with
    | nil => exact .nil
    | space hc _ ih => exact .plain (isQuote_eq_false_of_isSpace hc) ih
    | quoted hquote hinside _ ih => exact .quoted hquote hinside ih
    | word _ hword _ _ ih =>
      exact (QuotesClosed.of_plain fun c hc ↦ (isWordChar_iff.1 (hword c hc)).2).append ih
  · simp only [← scanFrom_eq_ok_iff]
    fun_induction scanFrom here text with
    | case1 here => exact fun _ ↦ ⟨[], rfl⟩
    | case2 here c rest hc ih =>
      intro h
      have hplain : ∀ d ∈ [c], isQuote d = false :=
        List.forall_mem_singleton.2 (isQuote_eq_false_of_isSpace hc)
      exact ih (h.of_append hplain)
    | case3 here c rest hspace hquote hfound =>
      intro h
      obtain ⟨inside', after, rfl, hinside, -⟩ := h.of_cons_quote hquote
      rw [(span_quoted hinside after).2] at hfound
      cases hfound
    | case4 here c rest hspace hquote inside quote after hfound stop =>
      rename_i ih
      intro h
      obtain ⟨inside', after', rfl, hinside, hafter⟩ := h.of_cons_quote hquote
      rw [(span_quoted hinside after').2] at hfound
      obtain ⟨tokens, htokens⟩ := ih ((List.cons.inj hfound).2 ▸ hafter)
      exact ⟨_, map_eq_ok_iff.2 ⟨tokens, htokens, rfl⟩⟩
    | case5 here c rest hspace hquote word stop =>
      rename_i ih
      intro h
      have hc : isWordChar c = true :=
        isWordChar_iff.2 ⟨by simpa using hspace, by simpa using hquote⟩
      have hplain : ∀ d ∈ word, isQuote d = false := fun d hd ↦
        (isWordChar_iff.1 (isWordChar_of_mem_word hc d hd)).2
      rw [word_append_rest c rest] at h
      obtain ⟨tokens, htokens⟩ := ih (h.of_append hplain)
      exact ⟨_, map_eq_ok_iff.2 ⟨tokens, htokens, rfl⟩⟩

end Token

end InventoryQuery
