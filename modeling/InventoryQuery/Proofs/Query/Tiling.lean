import InventoryQuery.Proofs.Query.Span

/-!
# How tokens tile a text

The tokens of a text are apart and in order, with nothing but spaces between them.  Each is a run of
word characters that neither side goes on with, or a text between two quotes that it does not have.
The scanner finds the one list of tokens of this kind, and if there is none, the first quote that is
left open.
-/

namespace InventoryQuery.Token

variable {here : Nat} {first rest before written after text : List Char}
  {tokens others : List Token} {t : Token} {c : Char}

/-! ## How tokens are written -/

/-- How a token is written between two other parts of a text.  A word is written as it is, and
neither part goes on with it; a quoted text is between two quotes of a sort that it does not have. -/
inductive Stands (before after : List Char) : Token → List Char → Prop
  | word {text : String} {span : Span} (hword : ∀ c ∈ text.toList, isWordChar c = true)
      (hbefore : ∀ c ∈ before.getLast?, isWordChar c = false)
      (hafter : ∀ c ∈ after.head?, isWordChar c = false) :
      Stands before after ⟨false, text, span⟩ text.toList
  | quoted {quote : Char} {text : String} {span : Span} (hquote : isQuote quote = true)
      (hinside : quote ∉ text.toList) :
      Stands before after ⟨true, text, span⟩ (quote :: text.toList ++ [quote])

/-- No word goes on from one part of a text into the next. -/
def Parted (first rest : List Char) : Prop :=
  (∀ c ∈ first.getLast?, isWordChar c = false) ∨ ∀ c ∈ rest.head?, isWordChar c = false

theorem Stands.append_left (h : Stands before after t written) (hsome : written ≠ [])
    (hparted : Parted first (before ++ written ++ after)) :
    Stands (first ++ before) after t written := by
  cases h with
  | quoted hquote hinside => exact .quoted hquote hinside
  | word hword hbefore hafter =>
    refine .word hword (fun c hc ↦ ?_) hafter
    rcases List.eq_nil_or_concat before with rfl | ⟨before, d, rfl⟩
    · -- Now the word itself is next to the part that is put before it.
      rw [List.append_nil] at hc
      refine hparted.elim (fun hfirst ↦ hfirst c hc) fun hrest ↦ ?_
      obtain ⟨d, word, hd⟩ := List.exists_cons_of_ne_nil hsome
      rw [hd] at hword hrest
      have hplain : isWordChar d = false := hrest d rfl
      rw [hword d List.mem_cons_self] at hplain
      cases hplain
    · exact hbefore c (by simpa using hc)

theorem Stands.append_right (h : Stands before after t written) (hsome : written ≠ [])
    (hparted : Parted (before ++ written ++ after) rest) :
    Stands before (after ++ rest) t written := by
  cases h with
  | quoted hquote hinside => exact .quoted hquote hinside
  | @word text span hword hbefore hafter =>
    refine .word hword hbefore fun c hc ↦ ?_
    cases after with
    | cons d after => exact hafter c hc
    | nil =>
      refine hparted.elim (fun hfirst ↦ ?_) fun hrest ↦ hrest c hc
      have hlast : text.toList.getLast hsome ∈ (before ++ text.toList ++ []).getLast? := by
        simp [List.getLast?_append, List.getLast?_eq_some_getLast hsome]
      have hplain := hfirst _ hlast
      rw [hword _ (List.getLast_mem hsome)] at hplain
      cases hplain

theorem stands_word {word : List Char} {span : Span} (hword : ∀ c ∈ word, isWordChar c = true) :
    Stands [] [] ⟨false, String.ofList word, span⟩ word := by
  have hstands : Stands [] [] ⟨false, String.ofList word, span⟩ (String.ofList word).toList :=
    .word (by rwa [String.toList_ofList]) (fun _ h ↦ nomatch h) fun _ h ↦ nomatch h
  rwa [String.toList_ofList] at hstands

theorem stands_quoted {quote : Char} {inside : List Char} {span : Span}
    (hquote : isQuote quote = true) (hinside : quote ∉ inside) :
    Stands [] [] ⟨true, String.ofList inside, span⟩ (quote :: inside ++ [quote]) := by
  have hstands : Stands [] [] ⟨true, String.ofList inside, span⟩
      (quote :: (String.ofList inside).toList ++ [quote]) :=
    .quoted hquote (by rwa [String.toList_ofList])
  rwa [String.toList_ofList] at hstands

/-- A token is written in the same way when less of what is before it counts. -/
theorem Stands.of_append_left (h : Stands (first ++ before) after t written) :
    Stands before after t written := by
  cases h with
  | quoted hquote hinside => exact .quoted hquote hinside
  | word hword hbefore hafter =>
    refine .word hword (fun c hc ↦ hbefore c ?_) hafter
    rw [List.getLast?_append, Option.mem_def.1 hc]
    rfl

/-- No token starts with a space. -/
theorem Stands.isSpace_of_head? (h : Stands before after t written) :
    ∀ c ∈ written.head?, isSpace c = false := by
  intro c hc
  cases h with
  | word hword _ _ => exact (isWordChar_iff.1 (hword c (List.mem_of_mem_head? hc))).1
  | quoted hquote _ =>
    obtain rfl := Option.some.inj hc
    exact isSpace_eq_false_of_isQuote hquote

/-! ## Tilings -/

/-- The tokens of a text that starts at an offset.  Each takes up something, ends before the next
one starts and is written where its span says; what belongs to none of them is a space. -/
structure Tiles (here : Nat) (text : List Char) (tokens : List Token) : Prop where
  nonempty : ∀ t ∈ tokens, t.span.start < t.span.stop
  ordered : tokens.Pairwise fun t t' ↦ t.span.Precedes t'.span
  stands : ∀ t ∈ tokens, ∃ before written after, text = before ++ written ++ after ∧
    t.span.start = here + byteCount before ∧ t.span.stop = t.span.start + byteCount written ∧
      Stands before after t written
  spaces : ∀ i, here ≤ i → i < here + byteCount text →
    (∀ t ∈ tokens, i < t.span.start ∨ t.span.stop ≤ i) →
      ∃ c, Span.Covers ⟨i, i + 1⟩ here text [c] ∧ isSpace c = true

theorem Tiles.written_ne_nil (h : Tiles here text tokens) (ht : t ∈ tokens)
    (hstop : t.span.stop = t.span.start + byteCount written) : written ≠ [] := by
  rintro rfl
  exact absurd (h.nonempty t ht) (by simp [hstop])

theorem Tiles.bounds (h : Tiles here text tokens) (ht : t ∈ tokens) :
    here ≤ t.span.start ∧ t.span.stop ≤ here + byteCount text := by
  obtain ⟨before, written, after, rfl, hstart, hstop, -⟩ := h.stands t ht
  simp only [byteCount_append]
  omega

/-- Where no word goes on from one text into the next, their tilings make one of both. -/
theorem Tiles.append (hfirst : Tiles here first tokens)
    (hrest : Tiles (here + byteCount first) rest others) (hparted : Parted first rest) :
    Tiles here (first ++ rest) (tokens ++ others) where
  nonempty := List.forall_mem_append.2 ⟨hfirst.nonempty, hrest.nonempty⟩
  ordered := List.pairwise_append.2 ⟨hfirst.ordered, hrest.ordered,
    fun t ht t' ht' ↦ (hfirst.bounds ht).2.trans (hrest.bounds ht').1⟩
  stands := by
    refine List.forall_mem_append.2 ⟨fun t ht ↦ ?_, fun t ht ↦ ?_⟩
    · obtain ⟨before, written, after, rfl, hstart, hstop, hstands⟩ := hfirst.stands t ht
      exact ⟨before, written, after ++ rest, by simp only [List.append_assoc], hstart, hstop,
        hstands.append_right (hfirst.written_ne_nil ht hstop) hparted⟩
    · obtain ⟨before, written, after, rfl, hstart, hstop, hstands⟩ := hrest.stands t ht
      refine ⟨first ++ before, written, after, by simp only [List.append_assoc], ?_, hstop,
        hstands.append_left (hrest.written_ne_nil ht hstop) hparted⟩
      rw [hstart, byteCount_append, Nat.add_assoc]
  spaces := by
    intro i hi hlt hnone
    obtain ⟨hnone, hnone'⟩ := List.forall_mem_append.1 hnone
    by_cases hin : i < here + byteCount first
    · obtain ⟨c, hcovers, hc⟩ := hfirst.spaces i hi hin hnone
      exact ⟨c, hcovers.append rest, hc⟩
    · rw [byteCount_append] at hlt
      obtain ⟨c, hcovers, hc⟩ := hrest.spaces i (by omega) (by omega) hnone'
      exact ⟨c, hcovers.append_left first, hc⟩

/-- What is after some tokens of a tiling is tiled by the other tokens. -/
theorem Tiles.of_append (hfirst : ∀ t ∈ tokens, t.span.stop ≤ here + byteCount first)
    (hrest : ∀ t ∈ others, here + byteCount first ≤ t.span.start)
    (h : Tiles here (first ++ rest) (tokens ++ others)) :
    Tiles (here + byteCount first) rest others where
  nonempty := (List.forall_mem_append.1 h.nonempty).2
  ordered := (List.pairwise_append.1 h.ordered).2.1
  stands := by
    intro t ht
    have hafter := hrest t ht
    obtain ⟨before, written, after, htext, hstart, hstop, hstands⟩ :=
      h.stands t (List.mem_append_right tokens ht)
    rw [List.append_assoc] at htext
    obtain ⟨middle, rfl, rfl⟩ := Span.exists_append_of_byteCount_le htext (by omega)
    refine ⟨middle, written, after, by rw [List.append_assoc], ?_, hstop, hstands.of_append_left⟩
    rw [hstart, byteCount_append, Nat.add_assoc]
  spaces := by
    intro i hi hlt hnone
    have hall : ∀ t ∈ tokens ++ others, i < t.span.start ∨ t.span.stop ≤ i :=
      List.forall_mem_append.2 ⟨fun t ht ↦ .inr ((hfirst t ht).trans hi), hnone⟩
    obtain ⟨c, hcovers, hc⟩ :=
      h.spaces i (by omega) (by rw [byteCount_append]; omega) hall
    exact ⟨c, hcovers.of_append hi, hc⟩

/-! ## From cuts to tilings -/

theorem utf8Size_of_isSpace (hc : isSpace c = true) : c.utf8Size = 1 := by
  simp only [isSpace, Bool.or_eq_true, beq_iff_eq] at hc
  rcases hc with ((rfl | rfl) | rfl) | rfl <;> decide

theorem tiles_nil (here : Nat) : Tiles here [] [] where
  nonempty := List.forall_mem_nil _
  ordered := .nil
  stands := List.forall_mem_nil _
  spaces := fun _ hi hlt _ ↦ absurd hlt (Nat.not_lt.2 hi)

theorem tiles_space (hc : isSpace c = true) (here : Nat) : Tiles here [c] [] where
  nonempty := List.forall_mem_nil _
  ordered := .nil
  stands := List.forall_mem_nil _
  spaces := by
    intro i hi hlt _
    rw [byteCount_cons, byteCount_nil, utf8Size_of_isSpace hc] at hlt
    obtain rfl : i = here := by omega
    refine ⟨c, ?_, hc⟩
    have hcovers := Span.covers_whole i [c]
    rwa [byteCount_cons, byteCount_nil, utf8Size_of_isSpace hc] at hcovers

/-- A token that stands alone tiles what it is written as. -/
theorem Stands.tiles (h : Stands [] [] t written) (hsome : written ≠ [])
    (hspan : t.span = ⟨here, here + byteCount written⟩) : Tiles here written [t] where
  nonempty := by
    have hpos : byteCount written ≠ 0 := by simpa using hsome
    refine List.forall_mem_singleton.2 ?_
    rw [hspan]
    dsimp only
    omega
  ordered := List.pairwise_singleton _ _
  stands := List.forall_mem_singleton.2
    ⟨[], written, [], by simp, by rw [hspan]; rfl, by rw [hspan], h⟩
  spaces := by
    intro i hi hlt hnone
    have hout := hnone t (List.mem_singleton_self t)
    rw [hspan] at hout
    dsimp only at hout
    omega

/-- Each piece that a text is cut into is tiled alone, and no word goes on over the end of one. -/
theorem Cuts.tiles (h : Cuts here text tokens) : Tiles here text tokens := by
  induction h with
  | @nil here => exact tiles_nil here
  | @space here c rest tokens hc _ ih =>
    have hrest : Tiles (here + byteCount [c]) rest tokens := ih
    refine (tiles_space hc here).append hrest (.inl fun d hd ↦ ?_)
    obtain rfl := Option.some.inj hd
    simp [isWordChar, hc]
  | @quoted here quote inside after tokens hquote hinside _ ih =>
    rw [quoted_eq_append quote inside after]
    refine ((stands_quoted hquote hinside).tiles (by simp) rfl).append ih (.inl fun d hd ↦ ?_)
    rw [List.getLast?_concat] at hd
    obtain rfl := Option.some.inj hd
    simp [isWordChar, hquote]
  | word hsome hword hend _ ih =>
    exact ((stands_word hword).tiles hsome rfl).append ih (.inr hend)

/-! ## From tilings to cuts -/

theorem Tiles.eq_nil (h : Tiles here [] tokens) : tokens = [] := by
  refine List.eq_nil_iff_forall_not_mem.2 fun t ht ↦ ?_
  have hbounds := h.bounds ht
  have hsome := h.nonempty t ht
  rw [byteCount_nil] at hbounds
  omega

/-- At a space there is no token. -/
theorem Tiles.start_of_space (h : Tiles here (c :: rest) tokens) (hc : isSpace c = true) :
    ∀ t ∈ tokens, here + byteCount [c] ≤ t.span.start := by
  intro t ht
  obtain ⟨before, written, after, htext, hstart, hstop, hstands⟩ := h.stands t ht
  cases before with
  | nil =>
    cases written with
    | nil => exact absurd rfl (h.written_ne_nil ht hstop)
    | cons d written =>
      obtain rfl : c = d := (List.cons.inj htext).1
      rw [hstands.isSpace_of_head? c rfl] at hc
      cases hc
  | cons d before =>
    obtain rfl : c = d := (List.cons.inj htext).1
    rw [hstart, byteCount_cons, byteCount_cons, byteCount_nil]
    omega

/-- At anything else that a text starts with there is its first token. -/
theorem Tiles.exists_first (h : Tiles here (c :: rest) tokens) (hc : isSpace c = false) :
    ∃ t others written after, tokens = t :: others ∧ c :: rest = written ++ after ∧
      t.span = ⟨here, here + byteCount written⟩ ∧ Stands [] after t written := by
  have hpos : 0 < c.utf8Size := c.utf8Size_pos
  -- The first byte belongs to a token, or else it would be a space.
  have hfound : ∃ t ∈ tokens, t.span.start ≤ here ∧ here < t.span.stop := by
    by_contra hnone
    have hout : ∀ t ∈ tokens, here < t.span.start ∨ t.span.stop ≤ here := by
      intro t ht
      by_contra hin
      exact hnone ⟨t, ht, by omega⟩
    obtain ⟨d, ⟨before, after, htext, hstart, -⟩, hd⟩ :=
      h.spaces here (Nat.le_refl here) (by rw [byteCount_cons]; omega) hout
    obtain rfl : before = [] := byteCount_eq_zero_iff.1 (by simpa using hstart)
    obtain rfl : c = d := (List.cons.inj htext).1
    rw [hd] at hc
    cases hc
  obtain ⟨t, ht, hstart, hstop⟩ := hfound
  obtain ⟨head, others, rfl⟩ := List.exists_cons_of_ne_nil (List.ne_nil_of_mem ht)
  obtain rfl : t = head := by
    rcases List.mem_cons.1 ht with rfl | ht
    · rfl
    · have hprecedes : head.span.stop ≤ t.span.start := (List.pairwise_cons.1 h.ordered).1 t ht
      have hbounds := h.bounds List.mem_cons_self
      have hsome := h.nonempty head List.mem_cons_self
      omega
  obtain ⟨before, written, after, htext, hstart', hstop', hstands⟩ := h.stands t ht
  obtain rfl : before = [] := byteCount_eq_zero_iff.1 (by omega)
  rw [byteCount_nil, Nat.add_zero] at hstart'
  refine ⟨t, others, written, after, rfl, htext, ?_, hstands⟩
  rw [← hstart', ← hstop']

/-- A token that a text starts with is the first one that it is cut into. -/
theorem Stands.cuts (h : Stands before after t written) (hsome : written ≠ [])
    (hspan : t.span = ⟨here, here + byteCount written⟩)
    (hafter : Cuts (here + byteCount written) after others) :
    Cuts here (written ++ after) (t :: others) := by
  cases h with
  | word hword _ hend =>
    obtain rfl := hspan
    have hcuts := Cuts.word hsome hword hend hafter
    rwa [String.ofList_toList] at hcuts
  | @quoted quote text _ hquote hinside =>
    obtain rfl := hspan
    have hcuts := Cuts.quoted hquote hinside hafter
    rwa [String.ofList_toList, quoted_eq_append quote text.toList after] at hcuts

/-- By induction on the length of the text: what is left after a space or after the first token is
tiled by the tokens that are left. -/
theorem Tiles.cuts (h : Tiles here text tokens) : Cuts here text tokens := by
  induction hlength : text.length using Nat.strong_induction_on generalizing here text tokens with
  | _ n ih =>
    subst hlength
    cases text with
    | nil =>
      rw [h.eq_nil]
      exact .nil
    | cons c rest =>
      cases hc : isSpace c with
      | true =>
        have hrest : Tiles (here + byteCount [c]) rest tokens :=
          Tiles.of_append (List.forall_mem_nil _) (h.start_of_space hc) h
        exact .space hc (ih _ (Nat.lt_succ_self _) hrest rfl)
      | false =>
        obtain ⟨t, others, written, after, rfl, htext, hspan, hstands⟩ := h.exists_first hc
        have hstop : t.span.stop = here + byteCount written := by rw [hspan]
        have hsome : written ≠ [] := h.written_ne_nil List.mem_cons_self (by rw [hspan])
        have hshorter : after.length < (c :: rest).length := by
          rw [htext, List.length_append]
          exact Nat.lt_add_of_pos_left (List.length_pos_iff.2 hsome)
        have hnext : ∀ t' ∈ others, here + byteCount written ≤ t'.span.start := fun t' ht' ↦
          hstop ▸ (List.pairwise_cons.1 h.ordered).1 t' ht'
        rw [htext] at h ⊢
        have hafter : Tiles (here + byteCount written) after others :=
          Tiles.of_append (List.forall_mem_singleton.2 (Nat.le_of_eq hstop)) hnext h
        exact hstands.cuts hsome hspan (ih _ hshorter hafter rfl)

/-- What a text is cut into are the tokens that tile it. -/
theorem scanFrom_eq_ok_iff_tiles : scanFrom here text = .ok tokens ↔ Tiles here text tokens :=
  scanFrom_eq_ok_iff.trans ⟨Cuts.tiles, Tiles.cuts⟩

/-! ## The quote that is left open -/

/-- After `before` there is a quote that is left open: the scanner comes to it, as all quoted texts
in `before` are complete, and there is no further quote of its sort. -/
structure LeavesOpen (text before : List Char) : Prop where
  closed : QuotesClosed before
  opens : ∃ quote after, text = before ++ quote :: after ∧ isQuote quote = true ∧ quote ∉ after

theorem LeavesOpen.append_left (hfirst : QuotesClosed first) (h : LeavesOpen rest before) :
    LeavesOpen (first ++ rest) (first ++ before) := by
  obtain ⟨hclosed, quote, after, rfl, hquote, hnone⟩ := h
  exact ⟨hfirst.append hclosed, quote, after, by rw [List.append_assoc], hquote, hnone⟩

theorem scanFrom_open {quote : Char} (hquote : isQuote quote = true) (hnone : quote ∉ after) :
    scanFrom here (quote :: after) =
      .error ⟨.openQuote, here, here + byteCount (quote :: after)⟩ := by
  have hdrop : after.dropWhile (· != quote) = [] := by
    refine List.dropWhile_eq_nil_iff.2 fun c hc ↦ ?_
    simpa using fun heq : c = quote ↦ hnone (heq ▸ hc)
  rw [scanFrom, if_neg (by simp [isSpace_eq_false_of_isQuote hquote]), if_pos hquote]
  split
  · rfl
  · next hfound =>
    rw [hdrop] at hfound
    cases hfound

/-- A quote that is left open is at fault, up to the end of the text. -/
theorem LeavesOpen.scanFrom_eq (h : LeavesOpen text before) (here : Nat) :
    scanFrom here text =
      .error ⟨.openQuote, here + byteCount before, here + byteCount text⟩ := by
  obtain ⟨hclosed, quote, after, rfl, hquote, hnone⟩ := h
  obtain ⟨tokens, hcuts⟩ : ∃ tokens, Cuts here before tokens := exists_cuts_iff.2 hclosed
  have hend : ∀ c ∈ (quote :: after).head?, isWordChar c = false := by
    intro c hc
    obtain rfl := Option.some.inj hc
    simp [isWordChar, hquote]
  rw [hcuts.scanFrom_append hend, scanFrom_open hquote hnone, byteCount_append, ← Nat.add_assoc]
  rfl

/-- Either all quotes of a text are closed, or there is a first one that is left open. -/
theorem quotesClosed_or_leavesOpen (text : List Char) :
    QuotesClosed text ∨ ∃ before, LeavesOpen text before := by
  induction hlength : text.length using Nat.strong_induction_on generalizing text with
  | _ n ih =>
    subst hlength
    cases text with
    | nil => exact .inl .nil
    | cons c rest =>
      cases hquote : isQuote c with
      | false =>
        rcases ih rest.length (Nat.lt_succ_self _) rest rfl with hclosed | ⟨before, hopen⟩
        · exact .inl (.plain hquote hclosed)
        · exact .inr ⟨[c] ++ before, hopen.append_left (.plain hquote .nil)⟩
      | true =>
        by_cases hmem : c ∈ rest
        · obtain ⟨inside, after, rfl, hinside⟩ := List.eq_append_cons_of_mem hmem
          have htext : c :: (inside ++ c :: after) = c :: inside ++ [c] ++ after :=
            quoted_eq_append c inside after
          have hshorter : after.length < (c :: (inside ++ c :: after)).length := by
            simp only [List.length_cons, List.length_append]
            omega
          rcases ih after.length hshorter after rfl with hclosed | ⟨before, hopen⟩
          · exact .inl (.quoted hquote hinside hclosed)
          · rw [htext]
            exact .inr ⟨_, hopen.append_left (.quoted hquote hinside .nil)⟩
        · exact .inr ⟨[], .nil, c, rest, rfl, hquote, hmem⟩

theorem scanFrom_eq_error_iff {e : FormError} :
    scanFrom here text = .error e ↔ ∃ before, LeavesOpen text before ∧
      e = ⟨.openQuote, here + byteCount before, here + byteCount text⟩ := by
  constructor
  · intro h
    rcases quotesClosed_or_leavesOpen text with hclosed | ⟨before, hopen⟩
    · obtain ⟨tokens, hcuts⟩ : ∃ tokens, Cuts here text tokens := exists_cuts_iff.2 hclosed
      rw [scanFrom_eq_ok_iff.2 hcuts] at h
      cases h
    · rw [hopen.scanFrom_eq] at h
      exact ⟨before, hopen, (Except.error.inj h).symm⟩
  · rintro ⟨before, hopen, rfl⟩
    exact hopen.scanFrom_eq here

theorem LeavesOpen.unique {before' : List Char} (h : LeavesOpen text before)
    (h' : LeavesOpen text before') : before = before' := by
  have hscan := (h.scanFrom_eq 0).symm.trans (h'.scanFrom_eq 0)
  have hcount : byteCount before = byteCount before' := by simpa using hscan
  obtain ⟨-, quote, after, htext, -⟩ := h
  obtain ⟨-, quote', after', htext', -⟩ := h'
  obtain ⟨middle, hbefore, -⟩ :=
    Span.exists_append_of_byteCount_le (htext.symm.trans htext') (Nat.le_of_eq hcount)
  have hnone : middle = [] := by
    rw [hbefore, byteCount_append] at hcount
    exact byteCount_eq_zero_iff.1 (by omega)
  rw [hbefore, hnone, List.append_nil]

/-! ## The scanner -/

/-- The scanner finds the tokens that tile a text.  It fails exactly where a quote is left open, and
there is one such quote that it comes to; the fault is from there up to the end of the text. -/
theorem scan_tiles (source : String) :
    (∀ tokens, scan source = .ok tokens ↔ Tiles 0 source.toList tokens) ∧
      (∀ e, scan source = .error e ↔ ∃ before, LeavesOpen source.toList before ∧
        e = ⟨.openQuote, byteCount before, byteCount source.toList⟩) ∧
      ∀ before before', LeavesOpen source.toList before → LeavesOpen source.toList before' →
        before = before' := by
  refine ⟨fun tokens ↦ scanFrom_eq_ok_iff_tiles, fun e ↦ ?_, fun _ _ ↦ LeavesOpen.unique⟩
  have hscan : scan source = .error e ↔ ∃ before, LeavesOpen source.toList before ∧
      e = ⟨.openQuote, 0 + byteCount before, 0 + byteCount source.toList⟩ := scanFrom_eq_error_iff
  simpa only [Nat.zero_add] using hscan

/-- Quotes of one sort inside those of the other, words beside quotes and a wide blank in a word;
and a quote that is only closed by one of the other sort. -/
theorem scan_tiles_of_nested :
    (∃ tokens, scan "größe =\"it's\"\u3000a'b \"c' d" = .ok tokens ∧
      tokens.map (·.text) = ["größe", "=", "it's", "\u3000a", "b \"c", "d"] ∧
      tokens.map (·.span) = [⟨0, 7⟩, ⟨8, 9⟩, ⟨9, 15⟩, ⟨15, 19⟩, ⟨19, 25⟩, ⟨26, 27⟩] ∧
      Tiles 0 "größe =\"it's\"\u3000a'b \"c' d".toList tokens) ∧
    ∃ before, scan "a 'b' \"c 'd'" = .error ⟨.openQuote, 6, 12⟩ ∧ byteCount before = 6 ∧
      LeavesOpen "a 'b' \"c 'd'".toList before ∧
      ∀ before', LeavesOpen "a 'b' \"c 'd'".toList before' → before' = before := by
  have htokens : (scan "größe =\"it's\"\u3000a'b \"c' d").toOption.map (fun tokens ↦
      (tokens.map (·.text), tokens.map (·.span))) =
      some (["größe", "=", "it's", "\u3000a", "b \"c", "d"],
        [⟨0, 7⟩, ⟨8, 9⟩, ⟨9, 15⟩, ⟨15, 19⟩, ⟨19, 25⟩, ⟨26, 27⟩]) := by
    decide +kernel
  have hfault : scan "a 'b' \"c 'd'" = .error ⟨.openQuote, 6, 12⟩ := by decide +kernel
  obtain ⟨tokens, hscan, hparts⟩ := exists_ok_of_toOption_map htokens
  obtain ⟨htexts, hspans⟩ := Prod.mk.inj hparts
  obtain ⟨before, hopen, he⟩ := ((scan_tiles _).2.1 _).1 hfault
  have hcount : 6 = byteCount before := congrArg (·.span.start) he
  exact ⟨⟨tokens, hscan, htexts, hspans, ((scan_tiles _).1 tokens).1 hscan⟩,
    ⟨before, hfault, hcount.symm, hopen, fun before' hopen' ↦
      (scan_tiles _).2.2 before' before hopen' hopen⟩⟩

end InventoryQuery.Token
