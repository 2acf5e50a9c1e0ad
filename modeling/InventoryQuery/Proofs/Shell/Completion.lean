import InventoryQuery.Catalog.Hosts
import InventoryQuery.Proofs.Catalog.Registration
import InventoryQuery.Proofs.Query.Span
import InventoryQuery.Proofs.Text.Lowering
import InventoryQuery.Shell.Completion

/-!
# Words that are offered

A word without marks that part words is offered wherever one of its beginnings was typed, and put
where it begins.  Of the words for hosts this leaves out a single one: the operator `!=` starts with
the mark of a negation, after which a new word begins, and so it is never offered at all.
-/

namespace InventoryQuery

/-! ## Lower case of signs -/

namespace Text

variable {before after text : List Char} {c : Char}

theorem lowerCharIn_ne_nil : lowerCharIn before c after ≠ [] := by
  unfold lowerCharIn lowerChar
  split
  · split <;> exact List.cons_ne_nil _ _
  · split <;> exact List.cons_ne_nil _ _

theorem lower_ne_nil (h : text ≠ []) : lower text ≠ [] := by
  obtain ⟨c, rest, rfl⟩ := List.exists_cons_of_ne_nil h
  rw [lower_eq_lowerIn, lowerIn]
  exact List.append_ne_nil_of_left_ne_nil lowerCharIn_ne_nil _

/-- No rule leads to an exclamation mark. -/
theorem applyRules_lowerRules_eq {n : Nat} (h : applyRules lowerRules n = '!'.toNat) :
    n = '!'.toNat := by
  have himages : ∀ rule ∈ lowerRules, '!'.toNat < rule.2.2.2 := by decide +kernel
  unfold applyRules at h
  split at h
  · next first last step image hfound =>
    have himage := himages _ (List.mem_of_find?_eq_some hfound)
    dsimp only at himage
    omega
  · exact h

theorem eq_mark_of_lowerChar (h : (lowerChar c).head? = some '!') : c = '!' := by
  unfold lowerChar at h
  split at h
  · cases h
  · have hchar : Char.ofNat (applyRules lowerRules c.toNat) = '!' := Option.some.inj h
    by_cases hvalid : (applyRules lowerRules c.toNat).isValidChar
    · rw [Char.ofNat, dif_pos hvalid] at hchar
      exact Char.toNat_inj.1 (applyRules_lowerRules_eq (congrArg Char.toNat hchar))
    · rw [Char.ofNat, dif_neg hvalid] at hchar
      cases hchar

/-- A text starts with an exclamation mark exactly if it does so in lower case. -/
theorem head?_lower_eq_mark_iff : (lower text).head? = some '!' ↔ text.head? = some '!' := by
  have hmark : lowerChar '!' = ['!'] := by decide +kernel
  cases text with
  | nil => rfl
  | cons c rest =>
    rw [lower_eq_lowerIn, lowerIn, List.head?_append_of_ne_nil _ lowerCharIn_ne_nil, lowerCharIn,
      List.head?_cons, Option.some_inj]
    constructor
    · intro h
      split at h
      · split at h <;> cases h
      · exact eq_mark_of_lowerChar h
    · rintro rfl
      rw [if_neg (by decide), hmark]
      rfl

end Text

namespace Completion

variable {words : List String} {w : String} {line text : List Char}

/-! ## The word under the cursor -/

section Word

variable {before word : List Char} {mark : Char}

theorem reverse_marked (before word : List Char) (mark : Char) :
    (before ++ mark :: word).reverse = word.reverse ++ mark :: before.reverse := by simp

theorem lastWord_append_cons (hmark : partsWords mark = true)
    (hword : ∀ c ∈ word, partsWords c = false) : lastWord (before ++ mark :: word) = word := by
  unfold lastWord
  rw [reverse_marked, takeWhile_run, List.reverse_reverse]
  · intro c hc
    simp [hword c (List.mem_reverse.1 hc)]
  · intro c hc
    obtain rfl := Option.some.inj hc
    simp [hmark]

theorem wordStart_append_cons (hmark : partsWords mark = true)
    (hword : ∀ c ∈ word, partsWords c = false) :
    wordStart (before ++ mark :: word) = byteCount before + 1 := by
  have hdrop : (before ++ mark :: word).reverse.dropWhile (!partsWords ·) =
      mark :: before.reverse := by
    rw [reverse_marked]
    refine dropWhile_run (fun c hc ↦ by simp [hword c (List.mem_reverse.1 hc)]) fun c hc ↦ ?_
    obtain rfl := Option.some.inj hc
    simp [hmark]
  simp only [wordStart, hdrop, List.reverse_reverse]

theorem wordStart_of_unparted (hword : ∀ c ∈ word, partsWords c = false) : wordStart word = 0 := by
  have hnone : word.reverse.dropWhile (!partsWords ·) = [] :=
    List.dropWhile_eq_nil_iff.2 fun c hc ↦ by simp [hword c (List.mem_reverse.1 hc)]
  rw [wordStart, hnone]

/-- Either no mark is in a text, or there is a last one. -/
theorem mark_cases (text : List Char) :
    (∀ c ∈ text, partsWords c = false) ∨ ∃ before mark word, text = before ++ mark :: word ∧
      partsWords mark = true ∧ ∀ c ∈ word, partsWords c = false := by
  cases hfind : text.reverse.find? partsWords with
  | none =>
    refine .inl fun c hc ↦ ?_
    simpa using List.find?_eq_none.1 hfind c (List.mem_reverse.2 hc)
  | some mark =>
    obtain ⟨hmark, after, before, htext, hafter⟩ := List.find?_eq_some_iff_append.1 hfind
    refine .inr ⟨before.reverse, mark, after.reverse, ?_, hmark, fun c hc ↦ ?_⟩
    · rw [← List.reverse_inj, htext, reverse_marked, List.reverse_reverse, List.reverse_reverse]
    · simpa using hafter c (List.mem_reverse.1 hc)

theorem partsWords_of_mem_lastWord {c : Char} (hc : c ∈ lastWord text) : partsWords c = false := by
  simpa using List.mem_takeWhile_imp (List.mem_reverse.1 hc)

/-- A word is cut off after the first byte of the mark before it, which has to be the only one. -/
theorem isSome_dropBytes_append_cons_iff :
    (Span.dropBytes (byteCount before + 1) (before ++ mark :: word)).isSome = true ↔
      mark.utf8Size = 1 := by
  have hpos : 0 < mark.utf8Size := mark.utf8Size_pos
  rw [Option.isSome_iff_exists]
  constructor
  · rintro ⟨rest, hrest⟩
    obtain ⟨first, htext, hcount⟩ := Span.dropBytes_eq_some_iff.1 hrest
    obtain ⟨middle, hfirst, hmiddle⟩ :=
      Span.exists_append_of_byteCount_le htext (by rw [hcount]; exact Nat.le_succ _)
    rw [hfirst, byteCount_append] at hcount
    cases middle with
    | nil =>
      rw [byteCount_nil] at hcount
      omega
    | cons c middle =>
      obtain rfl : mark = c := (List.cons.inj hmiddle).1
      rw [byteCount_cons] at hcount
      omega
  · intro hone
    refine ⟨word, Span.dropBytes_eq_some_iff.2 ⟨before ++ [mark], by simp, ?_⟩⟩
    rw [byteCount_append, byteCount_cons, byteCount_nil, hone]

end Word

/-! ## Candidates -/

theorem fst_candidates (h : startsCommand text = false) (words : List String) :
    (candidates words text).1 = wordStart text := by
  unfold candidates
  rw [h, if_neg Bool.false_ne_true]
  split
  · rfl
  · rfl

theorem mem_candidates_iff (h : startsCommand text = false) (words : List String) :
    w ∈ (candidates words text).2 ↔
      w ∈ words ∧ lastWord text ≠ [] ∧ Text.lower (lastWord text) <+: Text.lower w.toList := by
  unfold candidates
  rw [h, if_neg Bool.false_ne_true]
  split
  · next hnone =>
    have hword : lastWord text = [] := by
      by_contra hsome
      exact Text.lower_ne_nil hsome hnone
    simp [hword]
  · next typed hsome =>
    have hword : lastWord text ≠ [] := by
      intro hnil
      exact hsome (by rw [hnil]; rfl)
    simp [hword, List.isPrefixOf_iff_prefix]

theorem mem_commands_of_startsCommand (h : startsCommand text = true) {words : List String}
    (hmem : w ∈ (candidates words text).2) : w ∈ commands := by
  unfold candidates at hmem
  rw [if_pos h] at hmem
  exact (List.mem_filter.1 hmem).1

theorem candidatesAt?_eq_some_iff {offset : Nat} {answer : Nat × List String} :
    candidatesAt? words line offset = some answer ↔
      ∃ text, Span.takeBytes offset line = some text ∧
        (startsCommand text = true ∨ (Span.dropBytes (wordStart text) text).isSome = true) ∧
          candidates words text = answer := by
  unfold candidatesAt?
  rw [Option.bind_eq_bind, Option.bind_eq_some_iff]
  simp

/-- A text is cut off at its last word unless the mark before the word has more than a byte. -/
theorem isSome_dropBytes_wordStart_eq_false_iff :
    (Span.dropBytes (wordStart text) text).isSome = false ↔
      ∃ before mark word, text = before ++ mark :: word ∧ partsWords mark = true ∧
        (∀ c ∈ word, partsWords c = false) ∧ mark.utf8Size ≠ 1 := by
  constructor
  · intro hnone
    rcases mark_cases text with hunparted | ⟨before, mark, word, rfl, hmark, hword⟩
    · rw [wordStart_of_unparted hunparted, Span.dropBytes] at hnone
      cases hnone
    · refine ⟨before, mark, word, rfl, hmark, hword, fun hone ↦ ?_⟩
      rw [wordStart_append_cons hmark hword, isSome_dropBytes_append_cons_iff.2 hone] at hnone
      cases hnone
  · rintro ⟨before, mark, word, rfl, hmark, hword, hmore⟩
    rw [wordStart_append_cons hmark hword, Bool.eq_false_iff]
    exact fun hsome ↦ hmore (isSome_dropBytes_append_cons_iff.1 hsome)

/-- There is no answer where the offset is inside a character, nor where the last mark before it has
more than a byte and the line is no command. -/
theorem candidatesAt?_eq_none_iff {offset : Nat} :
    candidatesAt? words line offset = none ↔
      ∀ text rest, line = text ++ rest → byteCount text = offset → startsCommand text = false ∧
        ∃ before mark word, text = before ++ mark :: word ∧ partsWords mark = true ∧
          (∀ c ∈ word, partsWords c = false) ∧ mark.utf8Size ≠ 1 := by
  simp only [← isSome_dropBytes_wordStart_eq_false_iff]
  constructor
  · rintro hnone text rest rfl rfl
    have hneither : ¬(startsCommand text = true ∨
        (Span.dropBytes (wordStart text) text).isSome = true) := by
      intro heither
      have hsome : candidatesAt? words (text ++ rest) (byteCount text) =
          some (candidates words text) :=
        candidatesAt?_eq_some_iff.2
          ⟨text, Span.takeBytes_byteCount_append text rest, heither, rfl⟩
      rw [hnone] at hsome
      cases hsome
    simpa using hneither
  · intro h
    refine Option.eq_none_iff_forall_ne_some.2 fun answer hanswer ↦ ?_
    obtain ⟨text, htext, heither, -⟩ := candidatesAt?_eq_some_iff.1 hanswer
    obtain ⟨rest, hline, hoffset⟩ := Span.takeBytes_eq_some_iff.1 htext
    obtain ⟨hcommand, hsliced⟩ := h text rest hline hoffset
    simp [hcommand, hsliced] at heither

example : candidatesAt? ["fqdn"] "id,\u3000f".toList 7 = none := by decide +kernel

/-! ## Words that can be completed -/

/-- A text that a new word is typed after, and that is no command. -/
structure AwaitsWord (line : List Char) : Prop where
  parted : line.getLast? = some ' ' ∨ line.getLast? = some ','
  noCommand : (Text.trimStart line).head? ≠ some '.'

/-- The word is offered in its place wherever one of its beginnings was typed. -/
def Completes (words : List String) (w : String) : Prop :=
  ∀ line first, AwaitsWord line → first ≠ [] → first <+: w.toList →
    ∃ offered, candidatesAt? words (line ++ first) (byteCount (line ++ first)) =
      some (byteCount line, offered) ∧ w ∈ offered

/-- The word is offered somewhere. -/
def IsOffered (words : List String) (w : String) : Prop :=
  ∃ line offset start offered,
    candidatesAt? words line offset = some (start, offered) ∧ w ∈ offered

/-- A word that is typed as one, and that has the beginnings of its lower case in lower case. -/
structure IsPlain (w : String) : Prop where
  unparted : ∀ c ∈ w.toList, partsWords c = false
  noCommand : w.toList.head? ≠ some '.'
  noSigma : Text.capitalSigma ∉ w.toList

instance (w : String) : Decidable (IsPlain w) :=
  decidable_of_iff ((∀ c ∈ w.toList, partsWords c = false) ∧ w.toList.head? ≠ some '.' ∧
    Text.capitalSigma ∉ w.toList) ⟨fun h ↦ ⟨h.1, h.2.1, h.2.2⟩, fun h ↦ ⟨h.1, h.2, h.3⟩⟩

/-- The mark before a new word has one byte. -/
theorem AwaitsWord.exists_mark (h : AwaitsWord line) :
    ∃ before mark, line = before ++ [mark] ∧ partsWords mark = true ∧ mark.utf8Size = 1 := by
  rcases h.parted with hlast | hlast
  · obtain ⟨before, hline⟩ := List.getLast?_eq_some_iff.1 hlast
    exact ⟨before, ' ', hline, by decide, by decide⟩
  · obtain ⟨before, hline⟩ := List.getLast?_eq_some_iff.1 hlast
    exact ⟨before, ',', hline, by decide, by decide⟩

/-- A word that is typed makes no command of a query. -/
theorem AwaitsWord.startsCommand_append (h : AwaitsWord line) {word : List Char}
    (hword : ∀ c ∈ word, Text.isBlank c = false) (hhead : word.head? ≠ some '.') :
    startsCommand (line ++ word) = false := by
  have hline := h.noCommand
  have hplain : (Text.trimStart (line ++ word)).head? ≠ some '.' := by
    unfold Text.trimStart at *
    rw [List.dropWhile_append]
    split
    · have hnone : ∀ c ∈ [], Text.isBlank c = true := List.forall_mem_nil _
      have hdrop : word.dropWhile Text.isBlank = word :=
        dropWhile_run hnone fun c hc ↦ hword c (List.mem_of_mem_head? hc)
      rwa [hdrop]
    · next hsome => rwa [List.head?_append_of_ne_nil _ (by simpa using hsome)]
  rw [startsCommand, beq_eq_false_iff_ne.2 hplain, Bool.false_and]

/-- After a new word is begun the candidates are those for its beginning, in the place of it. -/
theorem AwaitsWord.exists_candidatesAt? (h : AwaitsWord line) {word : List Char}
    (hparts : ∀ c ∈ word, partsWords c = false) (hcommand : startsCommand (line ++ word) = false)
    (words : List String) :
    ∃ offered, candidatesAt? words (line ++ word) (byteCount (line ++ word)) =
      some (byteCount line, offered) ∧
      ∀ w, w ∈ offered ↔ w ∈ words ∧ word ≠ [] ∧ Text.lower word <+: Text.lower w.toList := by
  obtain ⟨before, mark, rfl, hmark, hone⟩ := h.exists_mark
  have htext : before ++ [mark] ++ word = before ++ mark :: word := by simp
  rw [htext] at hcommand ⊢
  have hstart : wordStart (before ++ mark :: word) = byteCount before + 1 :=
    wordStart_append_cons hmark hparts
  have hsliced : (Span.dropBytes (wordStart (before ++ mark :: word))
      (before ++ mark :: word)).isSome = true := by
    rw [hstart]
    exact isSome_dropBytes_append_cons_iff.2 hone
  have hplace : byteCount (before ++ [mark]) = byteCount before + 1 := by
    rw [byteCount_append, byteCount_cons, byteCount_nil, hone]
  have htake := Span.takeBytes_byteCount_append (before ++ mark :: word) []
  rw [List.append_nil] at htake
  refine ⟨(candidates words (before ++ mark :: word)).2, ?_, ?_⟩
  · refine candidatesAt?_eq_some_iff.2 ⟨_, htake, .inr hsliced, ?_⟩
    rw [hplace, ← hstart, ← fst_candidates hcommand words]
  · intro w
    rw [mem_candidates_iff hcommand, lastWord_append_cons hmark hparts]

theorem completes_of_isPlain (hmem : w ∈ words) (h : IsPlain w) : Completes words w := by
  intro line first hline hsome hfirst
  obtain ⟨rest, hrest⟩ := hfirst
  have hparts : ∀ c ∈ first, partsWords c = false := fun c hc ↦
    h.unparted c (hrest ▸ List.mem_append_left rest hc)
  have hblank : ∀ c ∈ first, Text.isBlank c = false := by
    intro c hc
    have hpart := hparts c hc
    simp only [partsWords, Bool.or_eq_false_iff] at hpart
    exact hpart.1.1
  have hhead : first.head? ≠ some '.' := by
    rw [← List.head?_append_of_ne_nil first hsome, hrest]
    exact h.noCommand
  have hsigma : Text.capitalSigma ∉ first := fun hc ↦
    h.noSigma (hrest ▸ List.mem_append_left rest hc)
  have hlower : Text.lower first <+: Text.lower w.toList := by
    rw [← hrest]
    exact Text.lower_prefix_iff.2
      ((Text.settled_of_notMem hsigma).settledBehind.undisturbed rest)
  obtain ⟨offered, hanswer, hoffered⟩ :=
    hline.exists_candidatesAt? hparts (hline.startsCommand_append hblank hhead) words
  exact ⟨offered, hanswer, (hoffered w).2 ⟨hmem, hsome, hlower⟩⟩

/-! ## Words that are never offered -/

/-- A word that starts with the mark of a negation is never offered, unless it is a command. -/
theorem not_isOffered_of_mark (hmark : w.toList.head? = some '!') (hcommand : w ∉ commands)
    (words : List String) : ¬IsOffered words w := by
  rintro ⟨line, offset, start, offered, hanswer, hmem⟩
  obtain ⟨text, -, -, hcandidates⟩ := candidatesAt?_eq_some_iff.1 hanswer
  have hmem' : w ∈ (candidates words text).2 := by rwa [hcandidates]
  cases hstarts : startsCommand text with
  | true => exact hcommand (mem_commands_of_startsCommand hstarts hmem')
  | false =>
    obtain ⟨-, hsome, rest, hrest⟩ := (mem_candidates_iff hstarts words).1 hmem'
    have hlower : (Text.lower (lastWord text)).head? = some '!' := by
      rw [← List.head?_append_of_ne_nil _ (Text.lower_ne_nil hsome), hrest,
        Text.head?_lower_eq_mark_iff, hmark]
    have hpart := partsWords_of_mem_lastWord
      (List.mem_of_mem_head? (Text.head?_lower_eq_mark_iff.1 hlower))
    cases hpart

/-! ## The words for hosts -/

theorem isPlain_of_mem_hosts (hw : w ∈ vocabulary Catalog.hosts) (hother : w ≠ "!=") :
    w.toList ≠ [] ∧ IsPlain w := by
  have hall : ∀ w ∈ vocabulary Catalog.hosts, w ≠ "!=" → w.toList ≠ [] ∧ IsPlain w := by
    decide +kernel
  exact hall w hw hother

theorem awaitsWord_space : AwaitsWord [' '] := ⟨.inl rfl, by decide⟩

theorem Completes.isOffered (h : Completes words w) (hsome : w.toList ≠ []) :
    IsOffered words w := by
  obtain ⟨offered, hanswer, hmem⟩ := h _ _ awaitsWord_space hsome (List.prefix_refl _)
  exact ⟨_, _, _, offered, hanswer, hmem⟩

/-- Each word for hosts is offered in its place for all of its beginnings, except for the operator
that starts with the mark of a negation, which is never offered. -/
theorem completes_hosts_iff (hw : w ∈ vocabulary Catalog.hosts) :
    (Completes (vocabulary Catalog.hosts) w ↔ w ≠ "!=") ∧
      (IsOffered (vocabulary Catalog.hosts) w ↔ w ≠ "!=") := by
  have hnever : IsOffered (vocabulary Catalog.hosts) w → w ≠ "!=" := by
    rintro h rfl
    exact not_isOffered_of_mark rfl (by decide) _ h
  have hcompletes (hother : w ≠ "!=") : Completes (vocabulary Catalog.hosts) w :=
    completes_of_isPlain hw (isPlain_of_mem_hosts hw hother).2
  refine ⟨⟨fun h ↦ ?_, hcompletes⟩, hnever, fun hother ↦ ?_⟩
  · rintro rfl
    exact hnever (h.isOffered (by decide)) rfl
  · exact (hcompletes hother).isOffered (isPlain_of_mem_hosts hw hother).1

/-- A word that was begun is offered, and put where it begins. -/
theorem completes_hosts_iff_of_reserved :
    "reserved_until" ∈ vocabulary Catalog.hosts ∧
      ∃ offered, candidatesAt? (vocabulary Catalog.hosts) "fqdn where reserved_u".toList 21 =
        some (11, offered) ∧ "reserved_until" ∈ offered := by
  have hw : "reserved_until" ∈ vocabulary Catalog.hosts := by decide +kernel
  have hline : AwaitsWord "fqdn where ".toList := ⟨.inl (by decide), by decide⟩
  have hfirst : "reserved_u".toList <+: "reserved_until".toList := ⟨"ntil".toList, by decide⟩
  exact ⟨hw, (completes_hosts_iff hw).1.2 (by decide) _ _ hline (by decide) hfirst⟩

/-- An exclamation mark is typed as the mark of a negation, and not as the beginning of an
operator. -/
theorem not_completes_notEqual :
    "!=" ∈ vocabulary Catalog.hosts ∧ ¬Completes (vocabulary Catalog.hosts) "!=" ∧
      candidatesAt? (vocabulary Catalog.hosts) "fqdn where comment !".toList 20 =
        some (20, []) := by
  have hanswer : candidatesAt? (vocabulary Catalog.hosts) "fqdn where comment !".toList 20 =
      some (20, []) := by decide +kernel
  refine ⟨by decide +kernel, fun h ↦ ?_, hanswer⟩
  have hline : AwaitsWord "fqdn where comment ".toList := ⟨.inl (by decide), by decide⟩
  obtain ⟨offered, hoffered, hmem⟩ :=
    h _ "!".toList hline (by decide) ⟨"=".toList, by decide⟩
  obtain ⟨-, rfl⟩ := Prod.mk.inj (Option.some.inj (hoffered.symm.trans hanswer))
  cases hmem

end Completion

end InventoryQuery
