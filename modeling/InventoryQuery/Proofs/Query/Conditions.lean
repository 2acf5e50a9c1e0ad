import InventoryQuery.Proofs.Success
import InventoryQuery.Proofs.Query.EncodedSpaces

/-!
# Conditions

Conditions are read exactly when their tokens form clauses with a connective between each and the
next.  A clause is a field alone, or a field, an operator and a value.
-/

namespace InventoryQuery

/-- The token may stand for a field. -/
structure Token.IsField (t : Token) : Prop where
  noConnective : t.connective? = none
  noOperator : t.operator? = none

namespace Query

/-- What a clause is written as: a field alone, which an exclamation mark in front of it negates
unless it is quoted, or a field, an operator and a value, in which spaces may be encoded. -/
inductive ClauseOf : List Token → Clause → Prop
  | bare {field : Token} (hfield : field.IsField)
      (hplain : field.quoted = true ∨ field.text.toList.head? ≠ some '!') :
      ClauseOf [field] (.bare ⟨field.text, field.span⟩ false)
  | negated {field : Token} {name : List Char} (hfield : field.IsField)
      (hword : field.quoted = false) (htext : field.text.toList = '!' :: name) :
      ClauseOf [field] (.bare ⟨String.ofList name, field.span.start + 1, field.span.stop⟩ true)
  | comparison {field symbol value : Token} {op : Operator} {decoded : String}
      (hfield : field.IsField) (hsymbol : symbol.operator? = some op)
      (hvalue : value.connective? = none) (hdecoded : Decodes value.text.toList decoded.toList) :
      ClauseOf [field, symbol, value]
        (.comparison ⟨field.text, field.span⟩ ⟨op, symbol.span⟩ ⟨decoded, value.span⟩)

/-- Connectives with a clause after each. -/
inductive RestOf : List Token → List (Located Connective × Clause) → Prop
  | nil : RestOf [] []
  | cons {word : Token} {connective : Connective} {condition rest : List Token} {clause : Clause}
      {others : List (Located Connective × Clause)} (hword : word.connective? = some connective)
      (hclause : ClauseOf condition clause) (hrest : RestOf rest others) :
      RestOf (word :: condition ++ rest) ((⟨connective, word.span⟩, clause) :: others)

/-- A clause, and connectives with a clause after each. -/
inductive FilterOf : List Token → Filter → Prop
  | mk {condition rest : List Token} {clause : Clause}
      {others : List (Located Connective × Clause)} (hclause : ClauseOf condition clause)
      (hrest : RestOf rest others) : FilterOf (condition ++ rest) ⟨clause, others⟩

/-! ## One clause -/

/-- No operator is also a connective. -/
theorem operator?_eq_none_of_connective? {t : Token} {connective : Connective}
    (h : t.connective? = some connective) : t.operator? = none := by
  have hsymbols : ∀ op : Operator, Connective.ofWord? op.symbol = none := by
    intro op
    cases op <;> decide
  cases hop : t.operator? with
  | none => rfl
  | some op =>
    obtain ⟨word, hword, hsymbol⟩ := Option.bind_eq_some_iff.1 hop
    obtain ⟨word', hword', hconnective⟩ := Option.bind_eq_some_iff.1 h
    obtain rfl : word = word' := Option.some.inj (hword.symm.trans hword')
    have hequal : op.symbol = word := by simpa using List.find?_some hsymbol
    rw [← hequal, hsymbols op] at hconnective
    cases hconnective

theorem bareClause_eq_bare {field : Token}
    (hplain : field.quoted = true ∨ field.text.toList.head? ≠ some '!') :
    bareClause field = .bare ⟨field.text, field.span⟩ false := by
  unfold bareClause
  split
  · next name hquoted htext =>
    simp [hquoted, htext] at hplain
  · rfl

theorem bareClause_eq_negated {field : Token} {name : List Char} (hword : field.quoted = false)
    (htext : field.text.toList = '!' :: name) :
    bareClause field =
      .bare ⟨String.ofList name, field.span.start + 1, field.span.stop⟩ true := by
  simp only [bareClause, hword, htext]

theorem clauseOf_bareClause {field : Token} (hfield : field.IsField) :
    ClauseOf [field] (bareClause field) := by
  unfold bareClause
  split
  · next name hquoted htext => exact .negated hfield hquoted htext
  · next hother =>
    refine .bare hfield ?_
    by_contra hneither
    rw [not_or, not_not] at hneither
    obtain ⟨hquoted, hhead⟩ := hneither
    obtain ⟨name, htext⟩ := List.head?_eq_some_iff.1 hhead
    exact hother name (by simpa using hquoted) htext

theorem readClause_sound {field : Token} {tokens rest : List Token} {clause : Clause}
    (h : readClause field tokens = .ok (clause, rest)) :
    ∃ used, field :: tokens = used ++ rest ∧ ClauseOf used clause := by
  unfold readClause at h
  split at h
  · cases h
  · next hconnective =>
    split at h
    · cases h
    · next hoperator =>
      have hfield : field.IsField := ⟨by simpa using hconnective, by simpa using hoperator⟩
      have hbare := clauseOf_bareClause hfield
      split at h
      · cases h
        exact ⟨[field], rfl, hbare⟩
      · next next tail =>
        split at h
        · cases h
        · next op value tail' hop =>
          split at h
          · cases h
          · next hvalue =>
            cases h
            exact ⟨[field, next, value], rfl,
              .comparison hfield hop (by simpa using hvalue) (decodes_iff.2 rfl)⟩
        · split at h
          · cases h
            exact ⟨[field], rfl, hbare⟩
          · cases h

/-- A field alone is read as such where its clause ends. -/
theorem readClause_bare {field : Token} (hfield : field.IsField) {rest : List Token}
    (hrest : ∀ t ∈ rest.head?, t.connective?.isSome = true) :
    readClause field rest = .ok (bareClause field, rest) := by
  unfold readClause
  rw [hfield.noConnective, hfield.noOperator]
  cases rest with
  | nil => rfl
  | cons next tail =>
    have hnext : next.connective?.isSome = true := hrest next rfl
    obtain ⟨connective, hconnective⟩ := Option.isSome_iff_exists.1 hnext
    simp [operator?_eq_none_of_connective? hconnective, hconnective]

theorem readClause_comparison {field symbol value : Token} {op : Operator}
    (hfield : field.IsField) (hsymbol : symbol.operator? = some op)
    (hvalue : value.connective? = none) (rest : List Token) :
    readClause field (symbol :: value :: rest) =
      .ok (.comparison ⟨field.text, field.span⟩ ⟨op, symbol.span⟩
        ⟨decodeValue value.text, value.span⟩, rest) := by
  unfold readClause
  simp [hfield.noConnective, hfield.noOperator, hsymbol, hvalue]

/-- What is written as a clause is read as that clause, if a connective or nothing comes after
it. -/
theorem readClause_complete {used rest : List Token} {clause : Clause} (h : ClauseOf used clause)
    (hrest : ∀ t ∈ rest.head?, t.connective?.isSome = true) :
    ∃ field more, used = field :: more ∧ readClause field (more ++ rest) = .ok (clause, rest) := by
  cases h with
  | @bare field hfield hplain =>
    refine ⟨field, [], rfl, ?_⟩
    rw [List.nil_append, readClause_bare hfield hrest, bareClause_eq_bare hplain]
  | @negated field name hfield hword htext =>
    refine ⟨field, [], rfl, ?_⟩
    rw [List.nil_append, readClause_bare hfield hrest, bareClause_eq_negated hword htext]
  | @comparison field symbol value op decoded hfield hsymbol hvalue hdecoded =>
    obtain rfl := decodes_iff.1 hdecoded
    exact ⟨field, [symbol, value], rfl, readClause_comparison hfield hsymbol hvalue rest⟩

/-! ## All clauses -/

theorem RestOf.isSome_connective? {tokens : List Token}
    {rest : List (Located Connective × Clause)} (h : RestOf tokens rest) :
    ∀ t ∈ tokens.head?, t.connective?.isSome = true := by
  cases h with
  | nil => simp
  | cons hword _ _ => simp [hword]

theorem readRest_cons_eq_ok_iff {word : Token} {tokens : List Token}
    {rest : List (Located Connective × Clause)} :
    readRest (word :: tokens) = .ok rest ↔
      ∃ connective field tail clause after others, word.connective? = some connective ∧
        tokens = field :: tail ∧ readClause field tail = .ok (clause, after) ∧
        readRest after = .ok others ∧ rest = (⟨connective, word.span⟩, clause) :: others := by
  constructor
  · intro h
    unfold readRest at h
    split at h
    · cases h
    · cases h
    · next connective field tail hword =>
      split at h
      · cases h
      · next clause after hread =>
        obtain ⟨others, hothers, rfl⟩ := map_eq_ok_iff.1 h
        exact ⟨connective, field, tail, clause, after, others, hword, rfl, hread, hothers, rfl⟩
  · rintro ⟨connective, field, tail, clause, after, others, hword, rfl, hread, hothers, rfl⟩
    unfold readRest
    split
    · next hnone =>
      rw [hword] at hnone
      cases hnone
    · next hnil => cases hnil
    · next connective' field' tail' hword' htokens =>
      cases htokens
      obtain rfl : connective = connective' := Option.some.inj (hword.symm.trans hword')
      split
      · next e herror =>
        rw [hread] at herror
        cases herror
      · next clause' after' hread' =>
        rw [hread] at hread'
        cases hread'
        exact map_eq_ok_iff.2 ⟨others, hothers, rfl⟩

theorem readRest_eq_ok_iff {tokens : List Token} {rest : List (Located Connective × Clause)} :
    readRest tokens = .ok rest ↔ RestOf tokens rest := by
  constructor
  · intro h
    -- The induction is on the number of tokens, of which every clause takes some.
    induction hlength : tokens.length using Nat.strongRecOn generalizing tokens rest with
    | _ n ih =>
      cases tokens with
      | nil =>
        rw [readRest] at h
        cases h
        exact .nil
      | cons word tokens =>
        obtain ⟨connective, field, tail, clause, after, others, hword, rfl, hread, hothers, rfl⟩ :=
          readRest_cons_eq_ok_iff.1 h
        obtain ⟨used, hused, hclause⟩ := readClause_sound hread
        rw [hused, ← List.cons_append]
        refine .cons hword hclause (ih after.length ?_ hothers rfl)
        have hle := length_readClause hread
        simp only [List.length_cons] at hlength
        omega
  · intro h
    induction h with
    | nil => rw [readRest]
    | cons hword hclause hrest ih =>
      obtain ⟨field, more, rfl, hread⟩ := readClause_complete hclause hrest.isSome_connective?
      exact readRest_cons_eq_ok_iff.2
        ⟨_, field, _, _, _, _, hword, rfl, hread, ih, rfl⟩

theorem readFilter_eq_ok_iff {span : Span} {tokens : List Token} {filter : Filter} :
    readFilter span tokens = .ok filter ↔ FilterOf tokens filter := by
  constructor
  · intro h
    cases tokens with
    | nil => cases h
    | cons field tail =>
      obtain ⟨⟨clause, after⟩, hread, h⟩ := bind_eq_ok_iff.1 h
      obtain ⟨others, hothers, h⟩ := bind_eq_ok_iff.1 h
      obtain ⟨used, hused, hclause⟩ := readClause_sound hread
      cases h
      rw [hused]
      exact .mk hclause (readRest_eq_ok_iff.1 hothers)
  · rintro ⟨hclause, hrest⟩
    obtain ⟨field, more, rfl, hread⟩ := readClause_complete hclause hrest.isSome_connective?
    refine bind_eq_ok_iff.2 ⟨_, hread, ?_⟩
    exact bind_eq_ok_iff.2 ⟨_, readRest_eq_ok_iff.2 hrest, rfl⟩

end Query

end InventoryQuery
