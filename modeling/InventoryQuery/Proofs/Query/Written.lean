import InventoryQuery.Proofs.Query.Grammar

/-!
# Queries with one condition

How queries for one thing are written: a list of fields, the word `where`, and a field alone or a
field, an operator and a literal, with spaces between them.  Such a text is read as what it is
written for, whatever fields come before.
-/

namespace InventoryQuery

/-! ## Tokens in a row -/

namespace Token

/-- Texts with a space between them are cut one after the other. -/
theorem Cuts.append_space {here : Nat} {first rest : List Char} {tokens others : List Token}
    {c : Char} (hfirst : Cuts here first tokens) (hc : isSpace c = true)
    (hrest : Cuts (here + byteCount first + c.utf8Size) rest others) :
    Cuts here (first ++ c :: rest) (tokens ++ others) := by
  have hend : ∀ d ∈ (c :: rest).head?, isWordChar d = false := by
    intro d hd
    obtain rfl := Option.some.inj hd
    simp [isWordChar, hc]
  rw [← scanFrom_eq_ok_iff] at hrest ⊢
  rw [hfirst.scanFrom_append hend, scanFrom_space hc, hrest]
  rfl

/-- What stands between words: at least one space. -/
structure IsGap (gap : List Char) : Prop where
  nonempty : gap ≠ []
  spaces : ∀ c ∈ gap, isSpace c = true

theorem isGap_singleton {c : Char} (hc : isSpace c = true) : IsGap [c] :=
  ⟨List.cons_ne_nil c [], List.forall_mem_singleton.2 hc⟩

theorem Cuts.spaces_append {here : Nat} {spaces rest : List Char} {tokens : List Token}
    (hspaces : ∀ c ∈ spaces, isSpace c = true)
    (hrest : Cuts (here + byteCount spaces) rest tokens) : Cuts here (spaces ++ rest) tokens := by
  induction spaces generalizing here with
  | nil => exact hrest
  | cons c spaces ih =>
    obtain ⟨hc, hspaces⟩ := List.forall_mem_cons.1 hspaces
    rw [byteCount_cons, ← Nat.add_assoc] at hrest
    exact .space hc (ih hspaces hrest)

/-- Texts with a gap between them are cut one after the other. -/
theorem Cuts.append_gap {here : Nat} {first gap rest : List Char} {tokens others : List Token}
    (hfirst : Cuts here first tokens) (hgap : IsGap gap)
    (hrest : Cuts (here + byteCount first + byteCount gap) rest others) :
    Cuts here (first ++ (gap ++ rest)) (tokens ++ others) := by
  obtain ⟨c, spaces, rfl⟩ := List.exists_cons_of_ne_nil hgap.nonempty
  obtain ⟨hc, hspaces⟩ := List.forall_mem_cons.1 hgap.spaces
  rw [byteCount_cons, ← Nat.add_assoc] at hrest
  exact hfirst.append_space hc (.spaces_append hspaces hrest)

/-- The token of a word that starts at an offset. -/
def wordAt (here : Nat) (word : String) : Token := ⟨false, word, here, here + byteCount word.toList⟩

@[simp]
theorem isWhere_wordAt (here : Nat) (word : String) :
    (wordAt here word).isWhere = Text.equalIgnoringAsciiCase word whereWord := rfl

@[simp]
theorem connective?_wordAt (here : Nat) (word : String) :
    (wordAt here word).connective? = Connective.ofWord? word := rfl

@[simp]
theorem operator?_wordAt (here : Nat) (word : String) :
    (wordAt here word).operator? = Operator.ofSymbol? word := rfl

theorem cuts_word {word : String} (hsome : word.toList ≠ [])
    (hword : ∀ c ∈ word.toList, isWordChar c = true) (here : Nat) :
    Cuts here word.toList [wordAt here word] := by
  have hcuts : Cuts here (word.toList ++ []) _ := .word hsome hword (by simp) .nil
  rwa [List.append_nil, String.ofList_toList] at hcuts

theorem cuts_quoted {quote : Char} {inside : List Char} (hquote : isQuote quote = true)
    (hinside : quote ∉ inside) (here : Nat) :
    Cuts here (quote :: inside ++ [quote])
      [⟨true, String.ofList inside, here, here + byteCount (quote :: inside ++ [quote])⟩] :=
  .quoted hquote hinside .nil

theorem isSpace_space : isSpace ' ' = true := by decide

theorem isBlank_of_isSpace {c : Char} (hc : isSpace c = true) : Text.isBlank c = true := by
  simp only [isSpace, Bool.or_eq_true, beq_iff_eq] at hc
  rcases hc with ((rfl | rfl) | rfl) | rfl <;> decide

end Token

namespace Query

/-! ## Field lists -/

theorem NamesField.append_blank {here : Nat} {piece : List Char} {field : Located String} {c : Char}
    (h : NamesField here piece field) (hc : Text.isBlank c = true) :
    NamesField here (piece ++ [c]) field := by
  obtain ⟨hleft, hsome, hname, hright⟩ := h
  rw [List.append_assoc _ _ [c]]
  refine .mk hleft hsome hname fun d hd ↦ ?_
  rcases List.mem_append.1 hd with hd | hd
  · exact hright d hd
  · rwa [List.mem_singleton.1 hd]

/-- A blank after a field list changes nothing. -/
theorem FieldList.append_blank {here : Nat} {text : List Char} {fields : List (Located String)}
    {c : Char} (h : FieldList here text fields) (hc : Text.isBlank c = true) (hcomma : c ≠ ',') :
    FieldList here (text ++ [c]) fields := by
  induction h with
  | last hpiece hnone =>
    refine .last (hpiece.append_blank hc) ?_
    simpa using ⟨hnone, Ne.symm hcomma⟩
  | cons hpiece hnone _ ih =>
    rw [List.append_assoc, List.cons_append]
    exact .cons hpiece hnone ih

theorem FieldList.append_gap {here : Nat} {text gap : List Char} {fields : List (Located String)}
    (h : FieldList here text fields) (hgap : Token.IsGap gap) :
    FieldList here (text ++ gap) fields := by
  have hspaces := hgap.spaces
  clear hgap
  induction gap generalizing text with
  | nil => rwa [List.append_nil]
  | cons c gap ih =>
    obtain ⟨hc, hspaces⟩ := List.forall_mem_cons.1 hspaces
    have hcomma : c ≠ ',' := by
      rintro rfl
      cases hc
    rw [List.append_cons]
    exact ih (h.append_blank (Token.isBlank_of_isSpace hc) hcomma) hspaces

/-! ## A filter after a field list -/

/-- A text that asks for fields goes on with the word `where` and a filter, with gaps around the
word. -/
theorem read_where_of_gaps {shown source : String} {text gap gap' : List Char}
    {fields : List (Located String)} {span : Span} {tokens : List Token} {filter : Filter}
    (hshown : read shown = .ok ⟨fields, none, span⟩) (hgap : Token.IsGap gap)
    (hgap' : Token.IsGap gap')
    (hsource : source.toList = shown.toList ++ (gap ++ (Token.whereWord.toList ++ (gap' ++ text))))
    (htokens : Token.Cuts (byteCount shown.toList + byteCount gap +
      byteCount Token.whereWord.toList + byteCount gap') text tokens)
    (hwhere : ∀ t ∈ tokens, t.isWhere = false) (hfilter : FilterOf tokens filter) :
    ∃ span', read source = .ok ⟨fields, some filter, span'⟩ := by
  have hderives : Derives shown ⟨fields, none, span⟩ := read_eq_ok_iff_derives.1 hshown
  generalize hq : (⟨fields, none, span⟩ : Query) = q at hderives
  cases hderives with
  | filtered => cases hq
  | @unfiltered before _ hbefore hnone hfields =>
    cases hq
    let here : Nat := 0 + byteCount shown.toList + byteCount gap
    let token : Token := Token.wordAt here Token.whereWord
    have hplace : here + byteCount Token.whereWord.toList + byteCount gap' =
        byteCount shown.toList + byteCount gap + byteCount Token.whereWord.toList +
          byteCount gap' := by simp only [here, Nat.zero_add]
    have hword : Token.Cuts here Token.whereWord.toList [token] :=
      Token.cuts_word (by decide) (List.all_eq_true.1 (by decide)) here
    have hrest : Token.Cuts here (Token.whereWord.toList ++ (gap' ++ text)) ([token] ++ tokens) :=
      hword.append_gap hgap' (hplace ▸ htokens)
    have hall : Token.Cuts 0 source.toList (before ++ token :: tokens) := by
      rw [hsource]
      exact hbefore.append_gap hgap hrest
    have honly : ∀ t ∈ before ++ tokens, t.isWhere = false :=
      List.forall_mem_append.2 ⟨hnone, hwhere⟩
    have hhead : source.toList =
        (shown.toList ++ gap) ++ (Token.whereWord.toList ++ (gap' ++ text)) := by
      rw [hsource, List.append_assoc]
    have hstart : byteCount (shown.toList ++ gap) = token.span.start := by
      simp [token, here, Token.wordAt]
    have hisWhere : token.isWhere = true := by
      simp [token, Text.equalIgnoringAsciiCase]
    exact ⟨_, read_eq_ok_iff_derives.2 (.filtered hall hisWhere honly hhead hstart
      (hfields.append_gap hgap) hfilter)⟩

theorem read_where {shown text : String} {fields : List (Located String)} {span : Span}
    {tokens : List Token} {filter : Filter} (hshown : read shown = .ok ⟨fields, none, span⟩)
    (htokens : Token.Cuts (byteCount shown.toList + byteCount " where ".toList) text.toList tokens)
    (hwhere : ∀ t ∈ tokens, t.isWhere = false) (hfilter : FilterOf tokens filter) :
    ∃ span', read (shown ++ " where " ++ text) = .ok ⟨fields, some filter, span'⟩ := by
  have hgap : Token.IsGap [' '] := Token.isGap_singleton Token.isSpace_space
  refine read_where_of_gaps hshown hgap hgap ?_ htokens hwhere hfilter
  simp only [String.toList_append, List.append_assoc]
  rfl

/-! ## One condition -/

/-- A word that stands for a field wherever it comes in a condition. -/
structure IsName (name : String) : Prop where
  nonempty : name.toList ≠ []
  word : ∀ c ∈ name.toList, Token.isWordChar c = true
  unmarked : name.toList.head? ≠ some '!'
  noWhere : Text.equalIgnoringAsciiCase name Token.whereWord = false
  noConnective : Connective.ofWord? name = none
  noOperator : Operator.ofSymbol? name = none

/-- How a value is written: between quotes that it does not contain, or as a word of its own that
does not go on with the query.  Spaces may be encoded in both forms. -/
inductive Literal : String → String → Prop
  | quoted {quote : Char} {inside : String} (hquote : Token.isQuote quote = true)
      (hinside : quote ∉ inside.toList) :
      Literal (String.ofList (quote :: inside.toList ++ [quote])) (decodeValue inside)
  | word {word : String} (hsome : word.toList ≠ [])
      (hword : ∀ c ∈ word.toList, Token.isWordChar c = true)
      (hwhere : Text.equalIgnoringAsciiCase word Token.whereWord = false)
      (hconnective : Connective.ofWord? word = none) : Literal word (decodeValue word)

/-- A literal is one token, which goes on with no query. -/
theorem Literal.exists_token {literal value : String} (h : Literal literal value) (here : Nat) :
    ∃ t : Token, Token.Cuts here literal.toList [t] ∧ t.isWhere = false ∧
      t.connective? = none ∧ decodeValue t.text = value := by
  cases h with
  | @quoted quote inside hquote hinside =>
    rw [String.toList_ofList]
    refine ⟨_, Token.cuts_quoted hquote hinside here, rfl, rfl, ?_⟩
    rw [String.ofList_toList]
  | @word _ hsome hword hwhere hconnective =>
    exact ⟨_, Token.cuts_word hsome hword here, hwhere, hconnective, rfl⟩

theorem IsName.isField {name : String} (h : IsName name) (here : Nat) :
    (Token.wordAt here name).IsField := ⟨h.noConnective, h.noOperator⟩

/-! ### Signs before names -/

theorem equalIgnoringAsciiCase_eq_false {a b : String} {c d : Char}
    (ha : a.toList.head? = some c) (hb : b.toList.head? = some d) (h : c.toLower ≠ d.toLower) :
    Text.equalIgnoringAsciiCase a b = false := by
  rw [Text.equalIgnoringAsciiCase, beq_eq_false_iff_ne]
  intro heq
  have hlist := congrArg (·.toList.head?) heq
  simp only [Text.asciiLower, String.toList_ofList, List.head?_map, ha, hb, Option.map_some,
    Option.some.injEq] at hlist
  exact h hlist

/-- No connective starts with an exclamation mark. -/
theorem ofWord?_eq_none_of_mark {word : String} (h : word.toList.head? = some '!') :
    Connective.ofWord? word = none := by
  have hand : Text.equalIgnoringAsciiCase word "and" = false :=
    equalIgnoringAsciiCase_eq_false h rfl (by decide)
  have hor : Text.equalIgnoringAsciiCase word "or" = false :=
    equalIgnoringAsciiCase_eq_false h rfl (by decide)
  simp [Connective.ofWord?, hand, hor]

/-- The only operator with an exclamation mark in front is the one that goes on with `=`. -/
theorem ofSymbol?_marked {name : String} (h : name ≠ "=") :
    Operator.ofSymbol? ("!" ++ name) = none := by
  cases hsymbol : Operator.ofSymbol? ("!" ++ name) with
  | none => rfl
  | some op =>
    have hequal : op.symbol = "!" ++ name := by simpa using List.find?_some hsymbol
    have hop : op.symbol.toList = '!' :: name.toList := by
      rw [hequal, String.toList_append]
      rfl
    refine absurd (String.toList_inj.1 ?_) h
    cases op <;> simp [Operator.symbol] at hop
    exact hop.symm

/-- An exclamation mark before a name makes no operator, no connective and no `where` of it. -/
theorem IsName.marked {name : String} (h : IsName name) :
    Text.equalIgnoringAsciiCase ("!" ++ name) Token.whereWord = false ∧
      Connective.ofWord? ("!" ++ name) = none ∧ Operator.ofSymbol? ("!" ++ name) = none := by
  have hhead : ("!" ++ name).toList.head? = some '!' := by
    rw [String.toList_append]
    rfl
  have hequal : name ≠ "=" := by
    rintro rfl
    cases h.noOperator
  exact ⟨equalIgnoringAsciiCase_eq_false hhead rfl (by decide), ofWord?_eq_none_of_mark hhead,
    ofSymbol?_marked hequal⟩

/-! ### Reading -/

theorem read_where_bare {shown name : String} {fields : List (Located String)} {span : Span}
    (hshown : read shown = .ok ⟨fields, none, span⟩) (hname : IsName name) (negated : Bool) :
    ∃ place span', read (shown ++ " where " ++ ((if negated then "!" else "") ++ name)) =
      .ok ⟨fields, some ⟨.bare ⟨name, place⟩ negated, []⟩, span'⟩ := by
  let start := byteCount shown.toList + byteCount " where ".toList
  cases negated with
  | false =>
    have hcuts : Token.Cuts start name.toList [Token.wordAt start name] :=
      Token.cuts_word hname.nonempty hname.word start
    have hclause : ClauseOf [Token.wordAt start name]
        (.bare ⟨name, (Token.wordAt start name).span⟩ false) :=
      .bare (hname.isField start) (.inr hname.unmarked)
    have hwhere : ∀ t ∈ [Token.wordAt start name], t.isWhere = false :=
      List.forall_mem_singleton.2 hname.noWhere
    obtain ⟨span', hread⟩ := read_where hshown hcuts hwhere (.mk hclause .nil)
    rw [if_neg Bool.false_ne_true, String.empty_append]
    exact ⟨_, span', hread⟩
  | true =>
    obtain ⟨hnoWhere, hnoConnective, hnoOperator⟩ := hname.marked
    have hlist : ("!" ++ name).toList = '!' :: name.toList := String.toList_append
    have hsome : ("!" ++ name).toList ≠ [] := by simp [hlist]
    have hword : ∀ c ∈ ("!" ++ name).toList, Token.isWordChar c = true := by
      rw [hlist]
      exact List.forall_mem_cons.2 ⟨by decide, hname.word⟩
    have hcuts : Token.Cuts start ("!" ++ name).toList [Token.wordAt start ("!" ++ name)] :=
      Token.cuts_word hsome hword start
    have hclause : ClauseOf [Token.wordAt start ("!" ++ name)]
        (.bare ⟨String.ofList name.toList, _⟩ true) :=
      .negated ⟨hnoConnective, hnoOperator⟩ rfl hlist
    have hwhere : ∀ t ∈ [Token.wordAt start ("!" ++ name)], t.isWhere = false :=
      List.forall_mem_singleton.2 hnoWhere
    obtain ⟨span', hread⟩ := read_where hshown hcuts hwhere (.mk hclause .nil)
    rw [String.ofList_toList] at hread
    rw [if_pos rfl]
    exact ⟨_, span', hread⟩

theorem symbol_word (op : Operator) :
    op.symbol.toList ≠ [] ∧ op.symbol.toList.all Token.isWordChar = true ∧
      Text.equalIgnoringAsciiCase op.symbol Token.whereWord = false ∧
      Operator.ofSymbol? op.symbol = some op := by
  cases op <;> decide

theorem read_where_comparison {shown name literal value : String} {fields : List (Located String)}
    {span : Span} (hshown : read shown = .ok ⟨fields, none, span⟩) (hname : IsName name)
    (op : Operator) (hliteral : Literal literal value) :
    ∃ place place' place'' span', read (shown ++ " where " ++
      (name ++ " " ++ op.symbol ++ " " ++ literal)) =
        .ok ⟨fields, some ⟨.comparison ⟨name, place⟩ ⟨op, place'⟩ ⟨value, place''⟩, []⟩,
          span'⟩ := by
  let start := byteCount shown.toList + byteCount " where ".toList
  let middle := start + byteCount name.toList + ' '.utf8Size
  obtain ⟨hsome, hword, hnoWhere, hsymbol⟩ := symbol_word op
  obtain ⟨t, hvalue, hwhere, hconnective, rfl⟩ := hliteral.exists_token
    (middle + byteCount op.symbol.toList + ' '.utf8Size)
  have htext : (name ++ " " ++ op.symbol ++ " " ++ literal).toList =
      name.toList ++ ' ' :: (op.symbol.toList ++ ' ' :: literal.toList) := by
    simp only [String.toList_append, List.append_assoc]
    rfl
  have hoperator : Token.Cuts middle op.symbol.toList [Token.wordAt middle op.symbol] :=
    Token.cuts_word hsome (List.all_eq_true.1 hword) middle
  have hrest : Token.Cuts middle (op.symbol.toList ++ ' ' :: literal.toList)
      ([Token.wordAt middle op.symbol] ++ [t]) :=
    hoperator.append_space Token.isSpace_space hvalue
  have hcuts : Token.Cuts start (name ++ " " ++ op.symbol ++ " " ++ literal).toList
      [Token.wordAt start name, Token.wordAt middle op.symbol, t] := by
    rw [htext]
    exact (Token.cuts_word hname.nonempty hname.word start).append_space Token.isSpace_space hrest
  have hclause : ClauseOf [Token.wordAt start name, Token.wordAt middle op.symbol, t]
      (.comparison ⟨name, _⟩ ⟨op, _⟩ ⟨decodeValue t.text, _⟩) :=
    .comparison (hname.isField start) hsymbol hconnective (decodes_iff.2 rfl)
  have hall : ∀ t' ∈ [Token.wordAt start name, Token.wordAt middle op.symbol, t],
      t'.isWhere = false := by
    intro t' ht'
    simp only [List.mem_cons, List.not_mem_nil, or_false] at ht'
    rcases ht' with rfl | rfl | rfl
    · exact hname.noWhere
    · exact hnoWhere
    · exact hwhere
  obtain ⟨span', hread⟩ := read_where hshown hcuts hall (.mk hclause .nil)
  exact ⟨_, _, _, span', hread⟩

end Query

end InventoryQuery
