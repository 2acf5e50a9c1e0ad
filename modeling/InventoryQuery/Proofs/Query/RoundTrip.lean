import InventoryQuery.Proofs.Query.Written

/-!
# Writing queries down

What a query asks can be written down before it is known where its parts will stand, and is read
back as it was.  Fields and values go between quotes, so they may be any texts that do not have both
kinds of quotes in them.  Only an encoded space is lost in a value, and so no value has one.
-/

namespace InventoryQuery

/-! ## What a query asks -/

/-- A condition without the places of its parts. -/
inductive Clause.Content
  | comparison (field : String) (op : Operator) (value : String)
  | bare (field : String) (negated : Bool)
  deriving DecidableEq

def Clause.content : Clause → Clause.Content
  | .comparison field op value => .comparison field.value op.value value.value
  | .bare field negated => .bare field.value negated

/-- Conditions and the connectives between them, without their places. -/
structure Filter.Content where
  first : Clause.Content
  rest : List (Connective × Clause.Content)
  deriving DecidableEq

def Filter.content (filter : Filter) : Filter.Content where
  first := filter.first.content
  rest := filter.rest.map fun (connective, clause) ↦ (connective.value, clause.content)

/-- A query without the places of its parts. -/
structure Query.Content where
  fields : List String
  filter : Option Filter.Content
  deriving DecidableEq

def Query.content (q : Query) : Query.Content where
  fields := q.fields.map (·.value)
  filter := q.filter.map (·.content)

/-! ## What can be written -/

/-- Both kinds of quotes are in a text. -/
def Text.MixesQuotes (s : String) : Prop := '\x22' ∈ s.toList ∧ '\x27' ∈ s.toList

instance (s : String) : Decidable (Text.MixesQuotes s) := inferInstanceAs (Decidable (_ ∧ _))

/-- A text that can be the value of a comparison. -/
structure Query.IsValue (value : String) : Prop where
  unmixed : ¬Text.MixesQuotes value
  noEncodedSpace : ¬"%20".toList <:+: value.toList

/-- A text that can be a name in a field list. -/
structure Query.IsListed (name : String) : Prop where
  nonempty : name.toList ≠ []
  noBlank : ∀ c ∈ name.toList, Text.isBlank c = false
  noComma : ',' ∉ name.toList
  noQuote : ∀ c ∈ name.toList, Token.isQuote c = false
  noWhere : Text.equalIgnoringAsciiCase name Token.whereWord = false

/-- A negated field is a word with the mark before it, and that word must be no operator. -/
def Clause.Content.Writable : Clause.Content → Prop
  | .comparison field _ value => ¬Text.MixesQuotes field ∧ Query.IsValue value
  | .bare field false => ¬Text.MixesQuotes field
  | .bare field true => (∀ c ∈ field.toList, Token.isWordChar c = true) ∧ field ≠ "="

structure Filter.Content.Writable (filter : Filter.Content) : Prop where
  first : filter.first.Writable
  rest : ∀ link ∈ filter.rest, link.2.Writable

structure Query.Content.Writable (content : Query.Content) : Prop where
  listed : content.fields ≠ []
  fields : ∀ name ∈ content.fields, Query.IsListed name
  filter : ∀ filter ∈ content.filter, filter.Writable

/-! ## Written forms -/

/-- A text between quotes that it does not contain. -/
inductive Token.Quotes (text : String) : List Char → Prop
  | mk {quote : Char} (hquote : Token.isQuote quote = true) (hinside : quote ∉ text.toList) :
      Quotes text (quote :: text.toList ++ [quote])

inductive Clause.Content.Writes : Clause.Content → List Char → Prop
  | comparison {field value : String} {op : Operator} {left gap gap' right : List Char}
      (hfield : Token.Quotes field left) (hgap : Token.IsGap gap) (hgap' : Token.IsGap gap')
      (hvalue : Token.Quotes value right) :
      Writes (.comparison field op value) (left ++ (gap ++ (op.symbol.toList ++ (gap' ++ right))))
  | bare {field : String} {text : List Char} (hfield : Token.Quotes field text) :
      Writes (.bare field false) text
  | negated {field : String} : Writes (.bare field true) ('!' :: field.toList)

/-- Connectives with a condition after each, and gaps before both. -/
inductive Filter.Content.WritesRest : List (Connective × Clause.Content) → List Char → Prop
  | nil : WritesRest [] []
  | cons {connective : Connective} {clause : Clause.Content}
      {others : List (Connective × Clause.Content)} {gap gap' text more : List Char}
      (hgap : Token.IsGap gap) (hgap' : Token.IsGap gap') (hclause : clause.Writes text)
      (hrest : WritesRest others more) :
      WritesRest ((connective, clause) :: others)
        (gap ++ (connective.word.toList ++ (gap' ++ text)) ++ more)

inductive Filter.Content.Writes : Filter.Content → List Char → Prop
  | mk {first : Clause.Content} {rest : List (Connective × Clause.Content)}
      {text more : List Char} (hfirst : first.Writes text) (hrest : WritesRest rest more) :
      Writes ⟨first, rest⟩ (text ++ more)

def Query.listText (names : List String) : String := Text.joined "," names

inductive Query.Content.Writes : Query.Content → List Char → Prop
  | unfiltered {names : List String} : Writes ⟨names, none⟩ (Query.listText names).toList
  | filtered {names : List String} {filter : Filter.Content} {gap gap' text : List Char}
      (hgap : Token.IsGap gap) (hgap' : Token.IsGap gap') (hfilter : filter.Writes text) :
      Writes ⟨names, some filter⟩
        ((Query.listText names).toList ++ (gap ++ (Token.whereWord.toList ++ (gap' ++ text))))

/-! ## Every content has a written form -/

theorem Token.exists_quotes {text : String} (h : ¬Text.MixesQuotes text) :
    ∃ written, Token.Quotes text written := by
  by_cases hdouble : '\x22' ∈ text.toList
  · have hsingle : '\x27' ∉ text.toList := fun hsingle ↦ h ⟨hdouble, hsingle⟩
    exact ⟨_, .mk (by decide) hsingle⟩
  · exact ⟨_, .mk (by decide) hdouble⟩

theorem Clause.Content.Writable.exists_writes {clause : Clause.Content} (h : clause.Writable) :
    ∃ text, clause.Writes text := by
  have hgap : Token.IsGap [' '] := Token.isGap_singleton Token.isSpace_space
  cases clause with
  | comparison field op value =>
    obtain ⟨hfield, hvalue⟩ := h
    obtain ⟨left, hleft⟩ := Token.exists_quotes hfield
    obtain ⟨right, hright⟩ := Token.exists_quotes hvalue.unmixed
    exact ⟨_, .comparison hleft hgap hgap hright⟩
  | bare field negated =>
    cases negated with
    | false =>
      obtain ⟨text, htext⟩ := Token.exists_quotes h
      exact ⟨text, .bare htext⟩
    | true => exact ⟨_, .negated⟩

theorem Filter.Content.exists_writesRest {links : List (Connective × Clause.Content)}
    (h : ∀ link ∈ links, link.2.Writable) : ∃ text, WritesRest links text := by
  have hgap : Token.IsGap [' '] := Token.isGap_singleton Token.isSpace_space
  induction links with
  | nil => exact ⟨[], .nil⟩
  | cons link others ih =>
    obtain ⟨hlink, hothers⟩ := List.forall_mem_cons.1 h
    obtain ⟨text, htext⟩ := hlink.exists_writes
    obtain ⟨more, hmore⟩ := ih hothers
    exact ⟨_, .cons hgap hgap htext hmore⟩

theorem Query.Content.Writable.exists_writes {content : Query.Content} (h : content.Writable) :
    ∃ text, content.Writes text := by
  have hgap : Token.IsGap [' '] := Token.isGap_singleton Token.isSpace_space
  obtain ⟨names, filter⟩ := content
  cases filter with
  | none => exact ⟨_, .unfiltered⟩
  | some filter =>
    obtain ⟨hfirst, hrest⟩ := h.filter filter rfl
    obtain ⟨text, htext⟩ := hfirst.exists_writes
    obtain ⟨more, hmore⟩ := Filter.Content.exists_writesRest hrest
    exact ⟨_, .filtered hgap hgap (.mk htext hmore)⟩

/-! ## Field lists -/

namespace Query

theorem IsListed.isWordChar {name : String} (h : IsListed name) :
    ∀ c ∈ name.toList, Token.isWordChar c = true := by
  intro c hc
  refine Token.isWordChar_iff.2 ⟨?_, h.noQuote c hc⟩
  by_contra hspace
  have hblank := Token.isBlank_of_isSpace (by simpa using hspace)
  rw [h.noBlank c hc] at hblank
  cases hblank

theorem IsListed.namesField {name : String} (h : IsListed name) (here : Nat) :
    ∃ span, NamesField here name.toList ⟨name, span⟩ := by
  have hfield : NamesField here ([] ++ name.toList ++ []) _ :=
    .mk (by simp) h.nonempty h.noBlank (by simp)
  rw [List.nil_append, List.append_nil, String.ofList_toList] at hfield
  exact ⟨_, hfield⟩

theorem listText_cons (name other : String) (names : List String) :
    (listText (name :: other :: names)).toList =
      name.toList ++ ',' :: (listText (other :: names)).toList := by
  simp only [listText, Text.joined, String.toList_append, List.append_assoc]
  rfl

theorem listText_singleton (name : String) : listText [name] = name := rfl

/-- Names with commas between them are a field list of these names. -/
theorem exists_fieldList {names : List String} (hsome : names ≠ [])
    (hnames : ∀ name ∈ names, IsListed name) (here : Nat) :
    ∃ fields, FieldList here (listText names).toList fields ∧ fields.map (·.value) = names := by
  induction names generalizing here with
  | nil => exact absurd rfl hsome
  | cons name names ih =>
    obtain ⟨hname, hnames⟩ := List.forall_mem_cons.1 hnames
    obtain ⟨span, hpiece⟩ := hname.namesField here
    cases names with
    | nil => exact ⟨_, .last hpiece hname.noComma, rfl⟩
    | cons other names =>
      obtain ⟨fields, hfields, hvalues⟩ :=
        ih (List.cons_ne_nil other names) hnames (here + byteCount name.toList + 1)
      rw [listText_cons]
      exact ⟨_, .cons hpiece hname.noComma hfields, congrArg (name :: ·) hvalues⟩

theorem isWordChar_listText {names : List String} (hnames : ∀ name ∈ names, IsListed name) :
    ∀ c ∈ (listText names).toList, Token.isWordChar c = true := by
  induction names with
  | nil => simp [listText, Text.joined]
  | cons name names ih =>
    obtain ⟨hname, hnames⟩ := List.forall_mem_cons.1 hnames
    cases names with
    | nil => exact hname.isWordChar
    | cons other names =>
      intro c hc
      rw [listText_cons, List.mem_append, List.mem_cons] at hc
      rcases hc with hc | rfl | hc
      · exact hname.isWordChar c hc
      · decide
      · exact ih hnames c hc

/-- A text with a mark in it is not a word without that mark. -/
theorem equalIgnoringAsciiCase_eq_false_of_mem {s word : String} {mark : Char}
    (h : mark ∈ s.toList) (hlower : mark.toLower = mark)
    (hword : mark ∉ (Text.asciiLower word).toList) :
    Text.equalIgnoringAsciiCase s word = false := by
  rw [Text.equalIgnoringAsciiCase, beq_eq_false_iff_ne]
  intro heq
  have hmem : mark ∈ (Text.asciiLower s).toList := by
    rw [Text.asciiLower, String.toList_ofList]
    exact List.mem_map.2 ⟨mark, h, hlower⟩
  exact hword (heq ▸ hmem)

theorem noWhere_listText {names : List String} (hnames : ∀ name ∈ names, IsListed name) :
    Text.equalIgnoringAsciiCase (listText names) Token.whereWord = false := by
  match names with
  | [] => rfl
  | [name] => exact (hnames name List.mem_cons_self).noWhere
  | name :: other :: names =>
    have hcomma : ',' ∈ (listText (name :: other :: names)).toList := by
      rw [listText_cons]
      exact List.mem_append_right _ List.mem_cons_self
    exact equalIgnoringAsciiCase_eq_false_of_mem hcomma (by decide) (by decide)

theorem read_listText {names : List String} (hsome : names ≠ [])
    (hnames : ∀ name ∈ names, IsListed name) {source : String}
    (hsource : source.toList = (listText names).toList) :
    ∃ fields span, read source = .ok ⟨fields, none, span⟩ ∧ fields.map (·.value) = names := by
  obtain rfl : source = listText names := String.toList_inj.1 hsource
  obtain ⟨fields, hfields, hvalues⟩ := exists_fieldList hsome hnames 0
  have hlist : (listText names).toList ≠ [] := by
    intro hnil
    refine hfields.trim_ne_nil ?_
    rw [hnil]
    rfl
  have htokens : Token.Cuts 0 (listText names).toList [Token.wordAt 0 (listText names)] :=
    Token.cuts_word hlist (isWordChar_listText hnames) 0
  have hwhere : ∀ t ∈ [Token.wordAt 0 (listText names)], t.isWhere = false :=
    List.forall_mem_singleton.2 (noWhere_listText hnames)
  exact ⟨fields, _, read_eq_ok_iff_derives.2 (.unfiltered htokens hwhere hfields), hvalues⟩

/-! ## Conditions -/

/-- A text in quotes is one token, which stands for nothing but that text. -/
theorem exists_token_of_quotes {text : String} {written : List Char}
    (h : Token.Quotes text written) (here : Nat) :
    ∃ t : Token, Token.Cuts here written [t] ∧ t.quoted = true ∧ t.text = text := by
  obtain ⟨hquote, hinside⟩ := h
  exact ⟨_, Token.cuts_quoted hquote hinside here, rfl, String.ofList_toList⟩

theorem isField_of_quoted {t : Token} (h : t.quoted = true) : t.IsField := by
  have hword : t.word? = none := if_pos h
  exact ⟨by simp [Token.connective?, hword], by simp [Token.operator?, hword]⟩

theorem isWhere_of_quoted {t : Token} (h : t.quoted = true) : t.isWhere = false := by
  have hword : t.word? = none := if_pos h
  simp [Token.isWhere, hword]

/-- What is written for a condition is cut into the tokens of that condition. -/
theorem exists_tokens_of_clause {clause : Clause.Content} (h : clause.Writable) {text : List Char}
    (htext : clause.Writes text) (here : Nat) :
    ∃ tokens read, Token.Cuts here text tokens ∧ (∀ t ∈ tokens, t.isWhere = false) ∧
      ClauseOf tokens read ∧ read.content = clause := by
  cases htext with
  | @comparison field value op left gap gap' right hfield hgap hgap' hvalue =>
    obtain ⟨t, hcuts, hquoted, rfl⟩ := exists_token_of_quotes hfield here
    let middle := here + byteCount left + byteCount gap
    obtain ⟨hsome, hword, hnoWhere, hsymbol⟩ := symbol_word op
    obtain ⟨t', hcuts', hquoted', rfl⟩ := exists_token_of_quotes hvalue
      (middle + byteCount op.symbol.toList + byteCount gap')
    have hoperator : Token.Cuts middle op.symbol.toList [Token.wordAt middle op.symbol] :=
      Token.cuts_word hsome (List.all_eq_true.1 hword) middle
    refine ⟨[t] ++ ([Token.wordAt middle op.symbol] ++ [t']), _,
      hcuts.append_gap hgap (hoperator.append_gap hgap' hcuts'), ?_,
      .comparison (isField_of_quoted hquoted) hsymbol (isField_of_quoted hquoted').noConnective
        (.last h.2.noEncodedSpace), rfl⟩
    intro t'' ht''
    simp only [List.cons_append, List.nil_append, List.mem_cons, List.not_mem_nil,
      or_false] at ht''
    rcases ht'' with rfl | rfl | rfl
    · exact isWhere_of_quoted hquoted
    · exact hnoWhere
    · exact isWhere_of_quoted hquoted'
  | @bare field _ hfield =>
    obtain ⟨t, hcuts, hquoted, rfl⟩ := exists_token_of_quotes hfield here
    exact ⟨[t], _, hcuts, List.forall_mem_singleton.2 (isWhere_of_quoted hquoted),
      .bare (isField_of_quoted hquoted) (.inl hquoted), rfl⟩
  | @negated field =>
    obtain ⟨hword, hequal⟩ := h
    have hlist : ("!" ++ field).toList = '!' :: field.toList := String.toList_append
    have hhead : ("!" ++ field).toList.head? = some '!' := by rw [hlist, List.head?_cons]
    have hcuts : Token.Cuts here ("!" ++ field).toList [Token.wordAt here ("!" ++ field)] := by
      refine Token.cuts_word (by simp [hlist]) ?_ here
      rw [hlist]
      exact List.forall_mem_cons.2 ⟨by decide, hword⟩
    have hfield : (Token.wordAt here ("!" ++ field)).IsField := by
      refine ⟨?_, ?_⟩
      · rw [Token.connective?_wordAt, ofWord?_eq_none_of_mark hhead]
      · rw [Token.operator?_wordAt, ofSymbol?_marked hequal]
    refine ⟨_, _, hlist ▸ hcuts, List.forall_mem_singleton.2 ?_, .negated hfield rfl hlist, ?_⟩
    · exact equalIgnoringAsciiCase_eq_false hhead rfl (by decide)
    · rw [Clause.content, String.ofList_toList]

theorem connective_word (connective : Connective) :
    connective.word.toList ≠ [] ∧ connective.word.toList.all Token.isWordChar = true ∧
      Text.equalIgnoringAsciiCase connective.word Token.whereWord = false ∧
      Connective.ofWord? connective.word = some connective := by
  cases connective <;> decide

/-- What is written after a text is cut into the tokens of connectives and conditions. -/
theorem exists_tokens_of_rest {links : List (Connective × Clause.Content)} {more : List Char}
    (hmore : Filter.Content.WritesRest links more) (hlinks : ∀ link ∈ links, link.2.Writable)
    {here : Nat} {first : List Char} {tokens : List Token} (hfirst : Token.Cuts here first tokens) :
    ∃ others read, Token.Cuts here (first ++ more) (tokens ++ others) ∧
      (∀ t ∈ others, t.isWhere = false) ∧ RestOf others read ∧
      read.map (fun (connective, clause) ↦ (connective.value, clause.content)) = links := by
  induction hmore generalizing first tokens with
  | nil => exact ⟨[], [], by simpa using hfirst, by simp, .nil, rfl⟩
  | @cons connective clause links gap gap' text more hgap hgap' hclause _ ih =>
    obtain ⟨hwritable, hlinks⟩ := List.forall_mem_cons.1 hlinks
    let start := here + byteCount first + byteCount gap
    obtain ⟨hsome, hword, hnoWhere, hconnective⟩ := connective_word connective
    obtain ⟨condition, asked, hcuts, hcondition, hasked, hcontent⟩ :=
      exists_tokens_of_clause hwritable hclause
        (start + byteCount connective.word.toList + byteCount gap')
    have hlink : Token.Cuts start (connective.word.toList ++ (gap' ++ text))
        ([Token.wordAt start connective.word] ++ condition) :=
      (Token.cuts_word hsome (List.all_eq_true.1 hword) start).append_gap hgap' hcuts
    obtain ⟨others, read, hall, hothers, hrest, hmap⟩ := ih hlinks (hfirst.append_gap hgap hlink)
    have hlinked : (Token.wordAt start connective.word).connective? = some connective := by
      rw [Token.connective?_wordAt, hconnective]
    refine ⟨Token.wordAt start connective.word :: condition ++ others, _, ?_, ?_,
      .cons hlinked hasked hrest, ?_⟩
    · simpa only [List.append_assoc, List.cons_append, List.nil_append] using hall
    · exact List.forall_mem_append.2 ⟨List.forall_mem_cons.2 ⟨hnoWhere, hcondition⟩, hothers⟩
    · simp only [List.map_cons, hmap, hcontent]

theorem exists_tokens_of_filter {filter : Filter.Content} (h : filter.Writable) {text : List Char}
    (htext : filter.Writes text) (here : Nat) :
    ∃ tokens read, Token.Cuts here text tokens ∧ (∀ t ∈ tokens, t.isWhere = false) ∧
      FilterOf tokens read ∧ read.content = filter := by
  obtain ⟨hfirst, hrest⟩ := htext
  obtain ⟨tokens, first, hcuts, hwhere, hclause, hcontent⟩ :=
    exists_tokens_of_clause h.first hfirst here
  obtain ⟨others, rest, hall, hothers, hlinks, hmap⟩ := exists_tokens_of_rest hrest h.rest hcuts
  refine ⟨_, ⟨first, rest⟩, hall, List.forall_mem_append.2 ⟨hwhere, hothers⟩,
    .mk hclause hlinks, ?_⟩
  rw [Filter.content, hcontent, hmap]

/-! ## Whole queries -/

theorem Content.Writable.read {content : Content} (h : content.Writable) {source : String}
    (hsource : content.Writes source.toList) : ∃ q, read source = .ok q ∧ q.content = content := by
  generalize htext : source.toList = text at hsource
  cases hsource with
  | unfiltered =>
    obtain ⟨fields, span, hread, hfields⟩ := read_listText h.listed h.fields htext
    exact ⟨_, hread, by rw [content, hfields]; rfl⟩
  | @filtered names filter gap gap' text hgap hgap' hfilter =>
    have hlist : (listText names).toList = (listText names).toList := rfl
    obtain ⟨fields, span, hread, hfields⟩ := read_listText h.listed h.fields hlist
    obtain ⟨tokens, asked, hcuts, hwhere, hasked, hcontent⟩ :=
      exists_tokens_of_filter (h.filter filter rfl) hfilter _
    obtain ⟨span', hread'⟩ := read_where_of_gaps hread hgap hgap' htext hcuts hwhere hasked
    exact ⟨_, hread', by rw [content, hfields, Option.map_some, hcontent]⟩

/-! ## What values can be -/

/-- A quoted text ends at the first quote like the one it began with, and a word at any. -/
theorem unmixed_of_cuts {here : Nat} {text : List Char} {tokens : List Token}
    (h : Token.Cuts here text tokens) : ∀ t ∈ tokens, ¬Text.MixesQuotes t.text := by
  induction h with
  | nil => simp
  | space _ _ ih => exact ih
  | quoted hquote hinside _ ih =>
    refine List.forall_mem_cons.2 ⟨?_, ih⟩
    rintro ⟨hdouble, hsingle⟩
    rw [String.toList_ofList] at hdouble hsingle
    simp only [Token.isQuote, Bool.or_eq_true, beq_iff_eq] at hquote
    rcases hquote with rfl | rfl
    · exact hinside hdouble
    · exact hinside hsingle
  | word _ hword _ _ ih =>
    refine List.forall_mem_cons.2 ⟨?_, ih⟩
    rintro ⟨hdouble, -⟩
    rw [String.toList_ofList] at hdouble
    exact absurd (hword _ hdouble) (by decide)

theorem isValue_decodeValue {text : String} (h : ¬Text.MixesQuotes text) :
    IsValue (decodeValue text) := by
  have hlist : (decodeValue text).toList = decodeSpaces text.toList := String.toList_ofList
  constructor
  · rintro ⟨hdouble, hsingle⟩
    rw [hlist] at hdouble hsingle
    exact h ⟨mem_of_mem_decodeSpaces (by decide) hdouble,
      mem_of_mem_decodeSpaces (by decide) hsingle⟩
  · rw [hlist]
    exact noEncodedSpace_decodeSpaces text.toList

theorem RestOf.exists_clauseOf {tokens : List Token} {rest : List (Located Connective × Clause)}
    (h : RestOf tokens rest) {clause : Clause} (hclause : clause ∈ rest.map (·.2)) :
    ∃ used, ClauseOf used clause ∧ used ⊆ tokens := by
  induction h with
  | nil => cases hclause
  | @cons word connective condition rest clause' others hword hcondition _ ih =>
    rcases List.mem_cons.1 hclause with rfl | hclause
    · refine ⟨condition, hcondition, fun t ht ↦ ?_⟩
      exact List.mem_append_left rest (List.mem_cons_of_mem word ht)
    · obtain ⟨used, hused, hsubset⟩ := ih hclause
      exact ⟨used, hused, fun t ht ↦ List.mem_append_right _ (hsubset ht)⟩

/-- Every clause of a query is made of tokens of its text. -/
theorem Derives.exists_clauseOf {source : String} {q : Query} (h : Derives source q)
    {clause : Clause} (hclause : clause ∈ q.clauses) :
    ∃ tokens used, Token.Cuts 0 source.toList tokens ∧ ClauseOf used clause ∧ used ⊆ tokens := by
  cases h with
  | unfiltered => cases hclause
  | @filtered before after word _ _ _ _ htokens _ _ _ _ _ hfilter =>
    have hafter : after ⊆ before ++ word :: after := fun t ht ↦
      List.mem_append_right before (List.mem_cons_of_mem word ht)
    obtain ⟨hfirst, hrest⟩ := hfilter
    rcases List.mem_cons.1 hclause with rfl | hclause
    · exact ⟨_, _, htokens, hfirst, fun t ht ↦ hafter (List.mem_append_left _ ht)⟩
    · obtain ⟨used, hused, hsubset⟩ := hrest.exists_clauseOf hclause
      exact ⟨_, used, htokens, hused, fun t ht ↦ hafter (List.mem_append_right _ (hsubset ht))⟩

theorem isValue_of_read {source : String} {q : Query} (h : read source = .ok q)
    {field value : String} {op : Operator}
    (hmem : .comparison field op value ∈ q.clauses.map (·.content)) : IsValue value := by
  obtain ⟨clause, hclause, hcontent⟩ := List.mem_map.1 hmem
  obtain ⟨tokens, used, htokens, hused, hsubset⟩ :=
    (read_eq_ok_iff_derives.1 h).exists_clauseOf hclause
  cases hused with
  | bare | negated => cases hcontent
  | @comparison _ _ literal _ _ _ _ _ hdecoded =>
    obtain rfl := decodes_iff.1 hdecoded
    cases hcontent
    exact isValue_decodeValue (unmixed_of_cuts htokens literal (hsubset (by simp)))

/-- A query that can be written is read back as what it asks for, however it is written.  Values of
comparisons are exactly the texts that have no encoded space and not both kinds of quotes. -/
theorem read_written :
    (∀ content : Content, content.Writable →
      (∃ source : String, content.Writes source.toList) ∧
        ∀ source : String, content.Writes source.toList →
          ∃ q, read source = .ok q ∧ q.content = content) ∧
      ∀ value, (∃ source q field op, read source = .ok q ∧
        .comparison field op value ∈ q.clauses.map (·.content)) ↔ IsValue value := by
  refine ⟨fun content h ↦ ⟨?_, fun source hsource ↦ h.read hsource⟩, fun value ↦ ⟨?_, ?_⟩⟩
  · obtain ⟨text, htext⟩ := h.exists_writes
    exact ⟨String.ofList text, by rwa [String.toList_ofList]⟩
  · rintro ⟨source, q, field, op, hread, hmem⟩
    exact isValue_of_read hread hmem
  · intro hvalue
    let content : Content := ⟨["fqdn"], some ⟨.comparison "fqdn" .equal value, []⟩⟩
    have hlisted : IsListed "fqdn" := ⟨by decide, by decide, by decide, by decide, by decide⟩
    have hwritable : content.Writable := by
      refine ⟨List.cons_ne_nil _ _, List.forall_mem_singleton.2 hlisted, ?_⟩
      rintro filter ⟨⟩
      exact ⟨⟨by decide, hvalue⟩, fun _ h ↦ nomatch h⟩
    obtain ⟨text, htext⟩ := hwritable.exists_writes
    rw [← String.toList_ofList (l := text)] at htext
    obtain ⟨q, hread, hcontent⟩ := hwritable.read htext
    refine ⟨_, q, "fqdn", .equal, hread, ?_⟩
    have hfilter : q.filter.map (·.content) = content.filter := congrArg Content.filter hcontent
    obtain ⟨filter, hq, hfilter⟩ := Option.map_eq_some_iff.1 hfilter
    have hfirst : filter.first.content = .comparison "fqdn" .equal value :=
      congrArg Filter.Content.first hfilter
    simp [clauses, hq, hfirst]

/-- Between quotes a connective is a field, `where` is part of a value and a mark negates
nothing. -/
theorem read_written_of_quoted_words :
    let content : Content := ⟨["fqdn", "os"], some ⟨.comparison "or" .contains "where \x22x\x22",
      [(.and, .bare "!gone" false), (.or, .bare "a,b" true)]⟩⟩
    content.Writable ∧
      ∃ source q, content.Writes source.toList ∧ read source = .ok q ∧ q.content = content := by
  intro content
  have hlisted : ∀ name ∈ ["fqdn", "os"], IsListed name := by
    refine List.forall_mem_cons.2 ⟨?_, List.forall_mem_singleton.2 ?_⟩
    · exact ⟨by decide, by decide, by decide, by decide, by decide⟩
    · exact ⟨by decide, by decide, by decide, by decide, by decide⟩
  have hfirst : (Clause.Content.comparison "or" .contains "where \x22x\x22").Writable :=
    ⟨by decide +kernel, by decide +kernel, by decide +kernel⟩
  have hlinks : ∀ link ∈ [(Connective.and, Clause.Content.bare "!gone" false),
      (.or, .bare "a,b" true)], link.2.Writable := by
    refine List.forall_mem_cons.2 ⟨?_, List.forall_mem_singleton.2 ?_⟩
    · exact show ¬Text.MixesQuotes "!gone" by decide +kernel
    · exact ⟨by decide +kernel, by decide +kernel⟩
  have hcontent : content.Writable := by
    refine ⟨List.cons_ne_nil _ _, hlisted, ?_⟩
    rintro filter ⟨⟩
    exact ⟨hfirst, hlinks⟩
  obtain ⟨⟨source, hsource⟩, hread⟩ := read_written.1 content hcontent
  obtain ⟨q, hq, hsame⟩ := hread source hsource
  exact ⟨hcontent, source, q, hsource, hq, hsame⟩

example :
    (read "fqdn, os where \x22or\x22 =~ 'where \x22x\x22' AND \x22!gone\x22 OR !a,b").map content =
      .ok ⟨["fqdn", "os"], some ⟨.comparison "or" .contains "where \x22x\x22",
        [(.and, .bare "!gone" false), (.or, .bare "a,b" true)]⟩⟩ := by
  decide +kernel

end Query

end InventoryQuery
