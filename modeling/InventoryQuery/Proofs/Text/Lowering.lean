import InventoryQuery.Text.Case
import Mathlib.Data.List.Infix

/-!
# Lower case in context

A text is lowered character by character, and of all characters only a capital sigma looks at what
stands around it: after a letter where no letter follows it becomes a final sigma.  So a text is
lowered as a part of every other text as it is alone exactly if it settles itself, for each of its
capital sigmas, whether that ends a word.
-/

namespace InventoryQuery.Text

variable {before after before' after' text first rest : List Char}

/-! ## The nearest letter -/

/-- Nothing but characters that are skipped when the context of a letter is judged. -/
def IsSkipped (text : List Char) : Prop := ∀ c ∈ text, isCaseIgnorable c = true

instance : Decidable (IsSkipped text) := inferInstanceAs (Decidable (∀ c ∈ text, _))

theorem meetsCased_append_of_skipped (h : IsSkipped first) :
    meetsCased (first ++ rest) = meetsCased rest := by
  unfold meetsCased
  rw [List.dropWhile_append_of_pos h]

theorem meetsCased_append_of_not_skipped (h : ¬IsSkipped first) :
    meetsCased (first ++ rest) = meetsCased first := by
  induction first with
  | nil => exact absurd (List.forall_mem_nil _) h
  | cons c first ih =>
    unfold meetsCased
    by_cases hc : isCaseIgnorable c = true
    · rw [List.cons_append, List.dropWhile_cons_of_pos hc, List.dropWhile_cons_of_pos hc]
      exact ih fun hfirst ↦ h (List.forall_mem_cons.2 ⟨hc, hfirst⟩)
    · rw [List.cons_append, List.dropWhile_cons_of_neg hc, List.dropWhile_cons_of_neg hc]

theorem not_meetsCased_of_skipped (h : IsSkipped text) : meetsCased text = false := by
  have hnil : meetsCased (text ++ []) = meetsCased [] := meetsCased_append_of_skipped h
  rw [List.append_nil] at hnil
  exact hnil

/-! ## Between other texts -/

/-- A capital sigma between these texts, the first of them given backwards, ends a word. -/
def endsWord (before after : List Char) : Bool := meetsCased before && !meetsCased after

/-- The lower-case form of a character between two texts, the first of them given backwards. -/
def lowerCharIn (before : List Char) (c : Char) (after : List Char) : List Char :=
  if c == capitalSigma then if endsWord before after then [finalSigma] else [smallSigma]
  else lowerChar c

/-- The lower-case form of a text between two others, the first of them given backwards. -/
def lowerIn (before : List Char) : List Char → List Char → List Char
  | [], _ => []
  | c :: text, after => lowerCharIn before c (text ++ after) ++ lowerIn (c :: before) text after

theorem lowerAfter_append (before text after : List Char) :
    lowerAfter before (text ++ after) =
      lowerIn before text after ++ lowerAfter (text.reverse ++ before) after := by
  induction text generalizing before with
  | nil => rfl
  | cons c text ih =>
    calc
      lowerAfter before (c :: text ++ after) =
          lowerCharIn before c (text ++ after) ++ lowerAfter (c :: before) (text ++ after) := rfl
      _ = lowerIn before (c :: text) after ++ lowerAfter ((c :: text).reverse ++ before) after := by
        rw [ih, lowerIn, List.append_assoc, List.reverse_cons, List.append_assoc]
        rfl

theorem lowerAfter_eq_lowerIn (before text : List Char) :
    lowerAfter before text = lowerIn before text [] := by
  have happend := lowerAfter_append before text []
  rw [List.append_nil, lowerAfter, List.append_nil] at happend
  exact happend

theorem lower_eq_lowerIn (text : List Char) : lower text = lowerIn [] text [] :=
  lowerAfter_eq_lowerIn [] text

/-- What a text becomes, with the texts around it in their places. -/
theorem lower_append (before text after : List Char) :
    lower (before ++ text ++ after) =
      lowerIn [] before (text ++ after) ++ lowerIn before.reverse text after ++
        lowerAfter (text.reverse ++ before.reverse) after := by
  unfold lower
  rw [List.append_assoc, lowerAfter_append, lowerAfter_append, List.append_nil, List.append_assoc]

/-! ## Capital sigmas -/

/-- Every capital sigma of the text stands between two texts, the first of them given backwards,
that are related. -/
def SigmasBetween (related : List Char → List Char → Prop) (text : List Char) : Prop :=
  ∀ first rest, text = first ++ capitalSigma :: rest → related first.reverse rest

theorem sigmasBetween_cons_iff {related : List Char → List Char → Prop} {c : Char} :
    SigmasBetween related (c :: text) ↔ (c = capitalSigma → related [] text) ∧
      SigmasBetween (fun before after ↦ related (before ++ [c]) after) text := by
  constructor
  · refine fun h ↦ ⟨?_, fun first rest htext ↦ ?_⟩
    · rintro rfl
      exact h [] text rfl
    · have hmore := h (c :: first) rest (by rw [htext, List.cons_append])
      rwa [List.reverse_cons] at hmore
  · rintro ⟨hfirst, hrest⟩ first rest htext
    cases first with
    | nil =>
      obtain ⟨rfl, rfl⟩ := List.cons.inj htext
      exact hfirst rfl
    | cons d first =>
      obtain ⟨rfl, hmore⟩ := List.cons.inj htext
      rw [List.reverse_cons]
      exact hrest first rest hmore

theorem lowerCharIn_eq_iff {c : Char} :
    lowerCharIn before c after = lowerCharIn before' c after' ↔
      (c = capitalSigma → endsWord before after = endsWord before' after') := by
  have hsigmas : finalSigma ≠ smallSigma := by decide
  unfold lowerCharIn
  by_cases hc : c = capitalSigma
  · subst hc
    cases endsWord before after <;> cases endsWord before' after' <;>
      simp [hsigmas, hsigmas.symm]
  · simp [hc]

theorem length_lowerCharIn (c : Char) :
    (lowerCharIn before c after).length = (lowerCharIn before' c after').length := by
  unfold lowerCharIn
  cases endsWord before after <;> cases endsWord before' after' <;> split <;> rfl

theorem length_lowerIn :
    (lowerIn before text after).length = (lowerIn before' text after').length := by
  induction text generalizing before before' with
  | nil => rfl
  | cons c text ih =>
    rw [lowerIn, lowerIn, List.length_append, List.length_append, ih, length_lowerCharIn]

/-- A text is lowered alike between texts that make the same of its capital sigmas. -/
theorem lowerIn_eq_iff :
    lowerIn before text after = lowerIn before' text after' ↔
      SigmasBetween (fun first rest ↦ endsWord (first ++ before) (rest ++ after) =
        endsWord (first ++ before') (rest ++ after')) text := by
  induction text generalizing before before' with
  | nil => simp [lowerIn, SigmasBetween]
  | cons c text ih =>
    have hsplit : lowerIn before (c :: text) after = lowerIn before' (c :: text) after' ↔
        lowerCharIn before c (text ++ after) = lowerCharIn before' c (text ++ after') ∧
          lowerIn (c :: before) text after = lowerIn (c :: before') text after' :=
      ⟨fun h ↦ List.append_inj h (length_lowerCharIn c), fun h ↦ congrArg₂ (· ++ ·) h.1 h.2⟩
    rw [hsplit, lowerCharIn_eq_iff, ih, sigmasBetween_cons_iff]
    simp only [List.append_assoc, List.singleton_append, List.nil_append]

/-! ## Parts of other texts -/

/-- Texts around this text, the first of them given backwards, leave its capital sigmas as they are
in the text alone. -/
def Undisturbed (before text after : List Char) : Prop :=
  SigmasBetween (fun first rest ↦ endsWord (first ++ before) (rest ++ after) =
    endsWord first rest) text

theorem lowerIn_eq_lower_iff :
    lowerIn before text after = lower text ↔ Undisturbed before text after := by
  rw [lower_eq_lowerIn, lowerIn_eq_iff]
  simp only [List.append_nil]
  rfl

/-- What is found as it is written is found in lower case too, unless it is disturbed. -/
theorem Undisturbed.infix_lower (h : Undisturbed before.reverse text after) :
    lower text <:+: lower (before ++ text ++ after) := by
  rw [lower_append, lowerIn_eq_lower_iff.2 h]
  exact List.infix_append _ _ _

/-- A text that starts with another one does so in lower case exactly if that is not disturbed. -/
theorem lower_prefix_iff : lower text <+: lower (text ++ after) ↔ Undisturbed [] text after := by
  have happend :
      lower (text ++ after) = lowerIn [] text after ++ lowerAfter text.reverse after := by
    unfold lower
    rw [lowerAfter_append, List.append_nil]
  rw [happend, ← lowerIn_eq_lower_iff]
  constructor
  · intro hstart
    have hlength : (lower text).length = (lowerIn [] text after).length := by
      rw [lower_eq_lowerIn, length_lowerIn]
    have hsame := List.prefix_of_prefix_length_le hstart (List.prefix_append _ _) hlength.le
    exact (hsame.eq_of_length hlength).symm
  · intro hsame
    rw [hsame]
    exact List.prefix_append _ _

/-! ## Texts that settle their capital sigmas -/

/-- A letter is before a capital sigma, and there may come one after the text. -/
def OpenBehind (first rest : List Char) : Prop := meetsCased first = true ∧ IsSkipped rest

/-- No letter is after a capital sigma, and there may be one before the text. -/
def OpenAhead (first rest : List Char) : Prop := IsSkipped first ∧ meetsCased rest = false

/-- What comes after the text makes no difference to its capital sigmas. -/
def SettledBehind (text : List Char) : Prop :=
  SigmasBetween (fun first rest ↦ ¬OpenBehind first rest) text

/-- What stands before the text makes no difference to its capital sigmas. -/
def SettledAhead (text : List Char) : Prop :=
  SigmasBetween (fun first rest ↦ ¬OpenAhead first rest) text

/-- What stands around the text makes no difference to its capital sigmas. -/
def Settled (text : List Char) : Prop :=
  SigmasBetween (fun first rest ↦ ¬OpenBehind first rest ∧ ¬OpenAhead first rest) text

theorem SigmasBetween.imp {related related' : List Char → List Char → Prop}
    (h : SigmasBetween related text)
    (himp : ∀ first rest, related first rest → related' first rest) :
    SigmasBetween related' text := fun first rest htext ↦ himp _ _ (h first rest htext)

theorem settled_iff : Settled text ↔ SettledBehind text ∧ SettledAhead text := by
  constructor
  · exact fun h ↦ ⟨h.imp fun _ _ hsettled ↦ hsettled.1, h.imp fun _ _ hsettled ↦ hsettled.2⟩
  · exact fun h first rest htext ↦ ⟨h.1 first rest htext, h.2 first rest htext⟩

theorem Settled.settledBehind (h : Settled text) : SettledBehind text :=
  (settled_iff.1 h).1

theorem settled_of_notMem (h : capitalSigma ∉ text) : Settled text := by
  rintro first rest rfl
  exact absurd (List.mem_append_right _ List.mem_cons_self) h

theorem endsWord_append_of_not_openBehind (h : ¬OpenBehind first rest) :
    endsWord first (rest ++ after) = endsWord first rest := by
  unfold endsWord
  by_cases hrest : IsSkipped rest
  · have hfirst : meetsCased first = false := by
      rw [← Bool.not_eq_true]
      exact fun hletter ↦ h ⟨hletter, hrest⟩
    rw [hfirst, Bool.false_and, Bool.false_and]
  · rw [meetsCased_append_of_not_skipped hrest]

theorem append_endsWord_of_not_openAhead (h : ¬OpenAhead first rest) :
    endsWord (first ++ before) rest = endsWord first rest := by
  unfold endsWord
  by_cases hfirst : IsSkipped first
  · have hrest : meetsCased rest = true := by
      rw [← Bool.not_eq_false]
      exact fun hnone ↦ h ⟨hfirst, hnone⟩
    rw [hrest, Bool.not_true, Bool.and_false, Bool.and_false]
  · rw [meetsCased_append_of_not_skipped hfirst]

theorem SettledBehind.undisturbed (h : SettledBehind text) (after : List Char) :
    Undisturbed [] text after := by
  refine h.imp fun first rest hbehind ↦ ?_
  rw [List.append_nil]
  exact endsWord_append_of_not_openBehind hbehind

theorem Settled.undisturbed (h : Settled text) (before after : List Char) :
    Undisturbed before text after := by
  refine h.imp fun first rest ⟨hbehind, hahead⟩ ↦ ?_
  have hbehind' : ¬OpenBehind (first ++ before) rest := by
    rintro ⟨hletter, hrest⟩
    by_cases hfirst : IsSkipped first
    · exact hahead ⟨hfirst, not_meetsCased_of_skipped hrest⟩
    · rw [meetsCased_append_of_not_skipped hfirst] at hletter
      exact hbehind ⟨hletter, hrest⟩
  rw [endsWord_append_of_not_openBehind hbehind', append_endsWord_of_not_openAhead hahead]

/-! ### A letter beside the text -/

/-- A letter with case, and no sigma. -/
def letter : Char := 'a'

theorem meetsCased_letter : meetsCased [letter] = true := by decide +kernel

theorem OpenBehind.endsWord_letter (h : OpenBehind first rest) :
    endsWord first (rest ++ [letter]) ≠ endsWord first rest := by
  unfold endsWord
  rw [meetsCased_append_of_skipped h.2, not_meetsCased_of_skipped h.2, meetsCased_letter, h.1]
  decide

theorem OpenAhead.letter_endsWord (h : OpenAhead first rest) :
    endsWord (first ++ [letter]) rest ≠ endsWord first rest := by
  unfold endsWord
  rw [meetsCased_append_of_skipped h.1, not_meetsCased_of_skipped h.1, meetsCased_letter, h.2]
  decide

/-- The sigma that a capital one becomes at the end of a word, or elsewhere. -/
def sigma (final : Bool) : Char := if final then finalSigma else smallSigma

theorem lowerCharIn_capitalSigma :
    lowerCharIn before capitalSigma after = [sigma (endsWord before after)] := by
  unfold lowerCharIn sigma
  cases endsWord before after with
  | false => rfl
  | true => rfl

theorem count_lowerCharIn {c : Char} {final : Bool}
    (h : c = capitalSigma → endsWord before after = final → endsWord before' after' = final) :
    (lowerCharIn before c after).count (sigma final) ≤
        (lowerCharIn before' c after').count (sigma final) ∧
      ((lowerCharIn before c after).count (sigma final) =
        (lowerCharIn before' c after').count (sigma final) →
          lowerCharIn before c after = lowerCharIn before' c after') := by
  by_cases hc : c = capitalSigma
  · subst hc
    have hends := h rfl
    rw [lowerCharIn_capitalSigma, lowerCharIn_capitalSigma]
    generalize endsWord before after = ends at *
    generalize endsWord before' after' = ends' at *
    revert hends
    revert final ends ends'
    decide
  · have hsame : lowerCharIn before c after = lowerCharIn before' c after' :=
      lowerCharIn_eq_iff.2 fun hsigma ↦ absurd hsigma hc
    exact ⟨by rw [hsame], fun _ ↦ hsame⟩

/-- Where no sigma of a sort is gained, none is lost either if their number is the same. -/
theorem count_lowerIn {final : Bool}
    (h : SigmasBetween (fun first rest ↦ endsWord (first ++ before) (rest ++ after) = final →
      endsWord (first ++ before') (rest ++ after') = final) text) :
    (lowerIn before text after).count (sigma final) ≤
        (lowerIn before' text after').count (sigma final) ∧
      ((lowerIn before text after).count (sigma final) =
        (lowerIn before' text after').count (sigma final) →
          lowerIn before text after = lowerIn before' text after') := by
  induction text generalizing before before' with
  | nil => exact ⟨Nat.le_refl _, fun _ ↦ rfl⟩
  | cons c text ih =>
    obtain ⟨hfirst, hrest⟩ := sigmasBetween_cons_iff.1 h
    simp only [List.append_assoc, List.singleton_append, List.nil_append] at hfirst hrest
    obtain ⟨hle, hsame⟩ := count_lowerCharIn hfirst
    obtain ⟨hle', hsame'⟩ := ih hrest
    rw [lowerIn, lowerIn, List.count_append, List.count_append]
    refine ⟨Nat.add_le_add hle hle', fun hcount ↦ ?_⟩
    rw [hsame (by omega), hsame' (by omega)]

theorem lowerIn_letter (before after : List Char) : lowerIn before [letter] after = [letter] := by
  have hchar : lowerChar letter = [letter] := by decide +kernel
  have hother : (letter == capitalSigma) = false := by decide
  rw [lowerIn, lowerIn, List.append_nil, lowerCharIn, hother, if_neg Bool.false_ne_true, hchar]

theorem count_letter (final : Bool) : [letter].count (sigma final) = 0 := by
  revert final
  decide

/-- A text is not disturbed where it gains no sigma of a sort and has as many of them as alone. -/
theorem undisturbed_of_count {final : Bool}
    (hkept : SigmasBetween (fun first rest ↦ endsWord (first ++ before) (rest ++ after) = final →
      endsWord first rest = final) text)
    (hcount : (lower text).count (sigma final) ≤
      (lowerIn before text after).count (sigma final)) : Undisturbed before text after := by
  have hkept' : SigmasBetween (fun first rest ↦ endsWord (first ++ before) (rest ++ after) = final →
      endsWord (first ++ []) (rest ++ []) = final) text := by
    simpa only [List.append_nil] using hkept
  rw [lower_eq_lowerIn] at hcount
  rw [← lowerIn_eq_lower_iff, lower_eq_lowerIn]
  obtain ⟨hle, hsame⟩ := count_lowerIn hkept'
  exact hsame (Nat.le_antisymm hle hcount)

/-- With a letter behind it, a text is found in lower case only if that makes no difference. -/
theorem undisturbed_of_infix_letter (h : lower text <:+: lower (text ++ [letter])) :
    Undisturbed [] text [letter] := by
  have hwhole : lower (text ++ [letter]) = lowerIn [] text [letter] ++ [letter] := by
    unfold lower
    rw [lowerAfter_append, lowerAfter_eq_lowerIn _ [letter], lowerIn_letter]
  have hcount := h.sublist.count_le (sigma true)
  rw [hwhole, List.count_append, count_letter, Nat.add_zero] at hcount
  -- a letter behind never makes a sigma final
  refine undisturbed_of_count (fun first rest _ hends ↦ ?_) hcount
  rw [List.append_nil] at hends
  by_cases hrest : IsSkipped rest
  · rw [endsWord, meetsCased_append_of_skipped hrest, meetsCased_letter] at hends
    simp at hends
  · rwa [endsWord, meetsCased_append_of_not_skipped hrest] at hends

/-- With a letter before it, a text is found in lower case only if that makes no difference. -/
theorem undisturbed_of_letter_infix (h : lower text <:+: lower (letter :: text)) :
    Undisturbed [letter] text [] := by
  have hwhole : lower (letter :: text) = [letter] ++ lowerIn [letter] text [] := by
    calc
      lower (letter :: text) = lowerIn [] [letter] text ++ lowerAfter [letter] text :=
        lowerAfter_append [] [letter] text
      _ = [letter] ++ lowerIn [letter] text [] := by rw [lowerIn_letter, lowerAfter_eq_lowerIn]
  have hcount := h.sublist.count_le (sigma false)
  rw [hwhole, List.count_append, count_letter, Nat.zero_add] at hcount
  -- a letter before never makes a final sigma a small one
  refine undisturbed_of_count (fun first rest _ hends ↦ ?_) hcount
  rw [List.append_nil] at hends
  by_cases hfirst : IsSkipped first.reverse
  · rw [endsWord, not_meetsCased_of_skipped hfirst, Bool.false_and]
  · rwa [endsWord, meetsCased_append_of_not_skipped hfirst] at hends

theorem Undisturbed.settledBehind (h : Undisturbed [] text [letter]) : SettledBehind text := by
  refine h.imp fun first rest hsame hopen ↦ ?_
  rw [List.append_nil] at hsame
  exact hopen.endsWord_letter hsame

theorem Undisturbed.settledAhead (h : Undisturbed [letter] text []) : SettledAhead text := by
  refine h.imp fun first rest hsame hopen ↦ ?_
  rw [List.append_nil] at hsame
  exact hopen.letter_endsWord hsame

/-! ## The law -/

/-- A text is a prefix in lower case wherever it is one as it stands, if and only if it settles
what comes behind it. -/
theorem forall_lower_prefix_iff :
    (∀ after, lower text <+: lower (text ++ after)) ↔ SettledBehind text := by
  constructor
  · intro h
    have hundisturbed : Undisturbed [] text [letter] := lower_prefix_iff.1 (h [letter])
    exact hundisturbed.settledBehind
  · exact fun h after ↦ lower_prefix_iff.2 (h.undisturbed after)

/-- A text occurs in lower case wherever it occurs as it stands, if and only if it settles what is
on both sides of it. -/
theorem forall_lower_infix_iff :
    (∀ before after, lower text <:+: lower (before ++ text ++ after)) ↔ Settled text := by
  constructor
  · intro h
    have hbehind : Undisturbed [] text [letter] := undisturbed_of_infix_letter (h [] [letter])
    have hinside := h [letter] []
    rw [List.append_nil] at hinside
    have hahead : Undisturbed [letter] text [] := undisturbed_of_letter_infix hinside
    exact settled_iff.2 ⟨hbehind.settledBehind, hahead.settledAhead⟩
  · exact fun h before after ↦ (h.undisturbed before.reverse after).infix_lower

end InventoryQuery.Text
