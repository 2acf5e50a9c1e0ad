import InventoryQuery.Proofs.Query.Grammar

/-!
# Places in a source text

Whatever a query keeps of its text is where its span says, and the spans follow one another.
-/

namespace InventoryQuery

/-! ## Tokens -/

namespace Token

theorem word?_eq_some_iff {t : Token} {word : String} :
    t.word? = some word ↔ t.quoted = false ∧ t.text = word := by
  unfold word?
  cases t.quoted with
  | true => simp
  | false => simp

/-- How a text is written as a token: as a word, or between quotes that it does not have. -/
inductive Spells (text : String) : List Char → Prop
  | word (hsome : text.toList ≠ []) (hword : ∀ c ∈ text.toList, isWordChar c = true) :
      Spells text text.toList
  | quoted {quote : Char} (hquote : isQuote quote = true) (hinside : quote ∉ text.toList) :
      Spells text (quote :: text.toList ++ [quote])

/-- A token in a text that starts at an offset: its span covers what the token is written as,
which is the text of the token if that is a word. -/
structure IsIn (t : Token) (here : Nat) (text : List Char) : Prop where
  spelled : ∃ written, Spells t.text written ∧ t.span.Covers here text written
  word : t.quoted = false → t.span.Covers here text t.text.toList

theorem Cuts.isIn {here : Nat} {text : List Char} {tokens : List Token}
    (h : Cuts here text tokens) : ∀ t ∈ tokens, t.IsIn here text := by
  intro t ht
  obtain ⟨before, written, after, htext, hstart, hstop, hstands⟩ := h.tiles.stands t ht
  have hcovers : t.span.Covers here text written := ⟨before, after, htext, hstart, hstop⟩
  cases hstands with
  | word hword _ _ =>
    exact ⟨⟨_, .word (h.tiles.written_ne_nil ht hstop) hword, hcovers⟩, fun _ ↦ hcovers⟩
  | quoted hquote hinside =>
    exact ⟨⟨_, .quoted hquote hinside, hcovers⟩, fun hword ↦ nomatch hword⟩

theorem IsIn.bounds {t : Token} {here : Nat} {text : List Char} (h : t.IsIn here text) :
    here ≤ t.span.start ∧ t.span.start ≤ t.span.stop ∧ t.span.stop ≤ here + byteCount text := by
  obtain ⟨written, -, hcovers⟩ := h.spelled
  exact hcovers.bounds

end Token

namespace Query

/-! ## Field lists -/

theorem NamesField.covers {here : Nat} {piece : List Char} {field : Located String}
    (h : NamesField here piece field) : field.span.Covers here piece field.value.toList := by
  obtain ⟨-, -, -, -⟩ := h
  rw [String.toList_ofList]
  exact Span.covers_append here _ _ _

theorem FieldList.covers {here : Nat} {text : List Char} {fields : List (Located String)}
    (h : FieldList here text fields) :
    ∀ field ∈ fields, field.span.Covers here text field.value.toList := by
  induction h with
  | last hpiece _ => exact List.forall_mem_singleton.2 hpiece.covers
  | @cons here piece rest field fields hpiece _ _ ih =>
    refine List.forall_mem_cons.2 ⟨hpiece.covers.append _, fun other hother ↦ ?_⟩
    have hrest : other.span.Covers (here + byteCount piece) (',' :: rest) other.value.toList :=
      Span.Covers.append_left [','] (ih other hother)
    exact hrest.append_left piece

theorem FieldList.pairwise {here : Nat} {text : List Char} {fields : List (Located String)}
    (h : FieldList here text fields) :
    fields.Pairwise fun field other ↦ field.span.Precedes other.span := by
  induction h with
  | last _ _ => exact List.pairwise_singleton _ _
  | cons hpiece _ hrest ih =>
    refine List.pairwise_cons.2 ⟨fun other hother ↦ ?_, ih⟩
    have hstop := hpiece.covers.bounds.2.2
    have hstart := (hrest.covers other hother).bounds.1
    unfold Span.Precedes
    omega

end Query

/-! ## Conditions -/

/-- The span is not larger than that of the token. -/
def Span.IsPartOf (span : Span) (t : Token) : Prop :=
  t.span.start ≤ span.start ∧ span.stop ≤ t.span.stop

namespace Clause

/-- The spans of the parts of a clause, in the order of the text. -/
def spans : Clause → List Span
  | .comparison field op value => [field.span, op.span, value.span]
  | .bare field _ => [field.span]

/-- Where the parts of a clause stand: fields and values are written as tokens, and a value as one
that it is decoded from.  A negated field comes after its mark. -/
inductive IsIn (text : List Char) : Clause → Prop
  | comparison {field value : Located String} {op : Located Operator} {left right : List Char}
      {literal : String} (hfield : Token.Spells field.value left)
      (hleft : Span.slice? text field.span = some left)
      (hop : Span.slice? text op.span = some op.value.symbol.toList)
      (hvalue : Token.Spells literal right) (hright : Span.slice? text value.span = some right)
      (hdecoded : value.value = Query.decodeValue literal) : IsIn text (.comparison field op value)
  | bare {field : Located String} {written : List Char} (hfield : Token.Spells field.value written)
      (hwritten : Span.slice? text field.span = some written) : IsIn text (.bare field false)
  | negated {name : String} {start stop : Nat}
      (hmarked : Span.slice? text ⟨start, stop⟩ = some ('!' :: name.toList))
      (hname : Span.slice? text ⟨start + 1, stop⟩ = some name.toList) :
      IsIn text (.bare ⟨name, start + 1, stop⟩ true)

end Clause

def Filter.spans (filter : Filter) : List Span :=
  filter.first.spans ++ filter.rest.flatMap fun (connective, clause) ↦
    connective.span :: clause.spans

/-- The spans of everything that a query keeps of its text, in the order of the text. -/
def Query.spans (q : Query) : List Span :=
  q.fields.map (·.span) ++ (q.filter.map (·.spans)).getD []

namespace Query

variable {text : List Char} {tokens : List Token}

theorem symbol_of_operator? {t : Token} {op : Operator} (h : t.operator? = some op) :
    t.quoted = false ∧ t.text = op.symbol := by
  obtain ⟨word, hword, hsymbol⟩ := Option.bind_eq_some_iff.1 h
  have hequal : op.symbol = word := by simpa using List.find?_some hsymbol
  exact Token.word?_eq_some_iff.1 (hequal ▸ hword)

theorem ClauseOf.isIn {clause : Clause} (h : ClauseOf tokens clause)
    (htokens : ∀ t ∈ tokens, t.IsIn 0 text) : clause.IsIn text := by
  cases h with
  | @bare field _ _ =>
    obtain ⟨written, hspells, hcovers⟩ := (htokens field List.mem_cons_self).spelled
    exact .bare hspells (Span.slice?_eq_some_iff.2 hcovers)
  | @negated field name _ hword hname =>
    have hcovers := (htokens field List.mem_cons_self).word hword
    rw [hname] at hcovers
    refine .negated ?_ ?_
    · rw [String.toList_ofList]
      exact Span.slice?_eq_some_iff.2 hcovers
    · rw [String.toList_ofList]
      exact Span.slice?_eq_some_iff.2 hcovers.tail
  | @comparison field symbol value op _ _ hsymbol _ hdecoded =>
    obtain ⟨left, hleft, hfield⟩ := (htokens field (by simp)).spelled
    obtain ⟨right, hright, hvalue⟩ := (htokens value (by simp)).spelled
    obtain ⟨hword, htext⟩ := symbol_of_operator? hsymbol
    have hop := (htokens symbol (by simp)).word hword
    rw [htext] at hop
    exact .comparison hleft (Span.slice?_eq_some_iff.2 hfield) (Span.slice?_eq_some_iff.2 hop)
      hright (Span.slice?_eq_some_iff.2 hvalue) (decodes_iff.1 hdecoded)

theorem ClauseOf.forall₂_isPartOf {clause : Clause} (h : ClauseOf tokens clause) :
    List.Forall₂ (fun t span ↦ Span.IsPartOf span t) tokens clause.spans := by
  have hself (t : Token) : Span.IsPartOf t.span t := ⟨Nat.le_refl _, Nat.le_refl _⟩
  cases h with
  | bare => exact .cons (hself _) .nil
  | negated => exact .cons ⟨Nat.le_succ _, Nat.le_refl _⟩ .nil
  | comparison => exact .cons (hself _) (.cons (hself _) (.cons (hself _) .nil))

theorem connective_isIn {t : Token} {connective : Connective} (ht : t.IsIn 0 text)
    (h : t.connective? = some connective) :
    ∃ word, Span.slice? text t.span = some word ∧
      Connective.ofWord? (String.ofList word) = some connective := by
  obtain ⟨word, hword, hconnective⟩ := Option.bind_eq_some_iff.1 h
  obtain ⟨hunquoted, rfl⟩ := Token.word?_eq_some_iff.1 hword
  refine ⟨t.text.toList, Span.slice?_eq_some_iff.2 (ht.word hunquoted), ?_⟩
  rwa [String.ofList_toList]

theorem RestOf.isIn {rest : List (Located Connective × Clause)} (h : RestOf tokens rest)
    (htokens : ∀ t ∈ tokens, t.IsIn 0 text) :
    ∀ link ∈ rest, link.2.IsIn text ∧ ∃ word, Span.slice? text link.1.span = some word ∧
      Connective.ofWord? (String.ofList word) = some link.1.value := by
  induction h with
  | nil => exact List.forall_mem_nil _
  | cons hword hclause _ ih =>
    obtain ⟨hfirst, hrest⟩ := List.forall_mem_append.1 htokens
    obtain ⟨hin, hcondition⟩ := List.forall_mem_cons.1 hfirst
    exact List.forall_mem_cons.2 ⟨⟨hclause.isIn hcondition, connective_isIn hin hword⟩, ih hrest⟩

theorem RestOf.forall₂_isPartOf {rest : List (Located Connective × Clause)}
    (h : RestOf tokens rest) :
    List.Forall₂ (fun t span ↦ Span.IsPartOf span t) tokens
      (rest.flatMap fun (connective, clause) ↦ connective.span :: clause.spans) := by
  induction h with
  | nil => exact .nil
  | cons _ hclause _ ih =>
    rw [List.flatMap_cons]
    exact List.rel_append (.cons ⟨Nat.le_refl _, Nat.le_refl _⟩ hclause.forall₂_isPartOf) ih

theorem FilterOf.forall₂_isPartOf {filter : Filter} (h : FilterOf tokens filter) :
    List.Forall₂ (fun t span ↦ Span.IsPartOf span t) tokens filter.spans := by
  obtain ⟨hfirst, hrest⟩ := h
  exact List.rel_append hfirst.forall₂_isPartOf hrest.forall₂_isPartOf

/-- Spans that are parts of tokens follow one another as the tokens do. -/
theorem pairwise_of_isPartOf {spans : List Span}
    (h : List.Forall₂ (fun t span ↦ Span.IsPartOf span t) tokens spans)
    (htokens : tokens.Pairwise fun t t' ↦ t.span.Precedes t'.span) :
    spans.Pairwise Span.Precedes := by
  induction h with
  | nil => exact .nil
  | cons hpart hparts ih =>
    obtain ⟨hfirst, hrest⟩ := List.pairwise_cons.1 htokens
    refine List.pairwise_cons.2 ⟨fun span hspan ↦ ?_, ih hrest⟩
    obtain ⟨t, ht, hpart'⟩ := exists_mem_of_forall₂ hparts hspan
    exact hpart.2.trans ((hfirst t ht).trans hpart'.1)

/-! ## Whole queries -/

/-- Where the parts of a query stand in its text. -/
structure IsIn (q : Query) (text : List Char) : Prop where
  fields : ∀ field ∈ q.fields, Span.slice? text field.span = some field.value.toList
  clauses : ∀ clause ∈ q.clauses, clause.IsIn text
  connectives : ∀ connective ∈ q.connectives, ∃ word,
    Span.slice? text connective.span = some word ∧
      Connective.ofWord? (String.ofList word) = some connective.value
  ordered : q.spans.Pairwise Span.Precedes

theorem FilterOf.isIn {filter : Filter} (h : FilterOf tokens filter)
    (htokens : ∀ t ∈ tokens, t.IsIn 0 text) :
    filter.first.IsIn text ∧
      ∀ link ∈ filter.rest, link.2.IsIn text ∧ ∃ word,
        Span.slice? text link.1.span = some word ∧
          Connective.ofWord? (String.ofList word) = some link.1.value := by
  obtain ⟨hfirst, hrest⟩ := h
  obtain ⟨hcondition, hothers⟩ := List.forall_mem_append.1 htokens
  exact ⟨hfirst.isIn hcondition, hrest.isIn hothers⟩

/-- The fields end before the word `where`, and the conditions start after it. -/
theorem pairwise_spans {before after : List Token} {word : Token} {head : List Char}
    {fields : List (Located String)} {filter : Filter}
    (htokens : Token.Cuts 0 text (before ++ word :: after))
    (hstart : byteCount head = word.span.start) (hfields : FieldList 0 head fields)
    (hfilter : FilterOf after filter) :
    (fields.map (·.span) ++ filter.spans).Pairwise Span.Precedes := by
  have hwidth : word.span.start ≤ word.span.stop :=
    (htokens.isIn word (by simp)).bounds.2.1
  obtain ⟨hword, hafter⟩ :=
    List.pairwise_cons.1 (List.pairwise_append.1 htokens.tiles.ordered).2.1
  have hparts := hfilter.forall₂_isPartOf
  refine List.pairwise_append.2
    ⟨List.pairwise_map.2 hfields.pairwise, pairwise_of_isPartOf hparts hafter, ?_⟩
  intro left hleft right hright
  obtain ⟨field, hfield, rfl⟩ := List.mem_map.1 hleft
  obtain ⟨t, ht, hpart⟩ := exists_mem_of_forall₂ hparts hright
  have hend : field.span.stop ≤ 0 + byteCount head := (hfields.covers field hfield).bounds.2.2
  have hnext : word.span.stop ≤ t.span.start := hword t ht
  have hfirst : t.span.start ≤ right.start := hpart.1
  unfold Span.Precedes
  omega

theorem Derives.isIn {source : String} {q : Query} (h : Derives source q) :
    q.IsIn source.toList := by
  cases h with
  | unfiltered _ _ hfields =>
    refine ⟨fun field hfield ↦ Span.slice?_eq_some_iff.2 (hfields.covers field hfield),
      List.forall_mem_nil _, List.forall_mem_nil _, ?_⟩
    exact List.pairwise_append.2
      ⟨List.pairwise_map.2 hfields.pairwise, .nil, fun _ _ _ h ↦ nomatch h⟩
  | @filtered before after word head rest fields filter htokens _ _ htext hstart hfields
      hfilter =>
    have hafter : ∀ t ∈ after, t.IsIn 0 source.toList := fun t ht ↦
      htokens.isIn t (List.mem_append_right before (List.mem_cons_of_mem word ht))
    obtain ⟨hfirst, hlinks⟩ := hfilter.isIn hafter
    refine ⟨fun field hfield ↦ ?_, ?_, ?_, pairwise_spans htokens hstart hfields hfilter⟩
    · rw [htext]
      exact Span.slice?_eq_some_iff.2 ((hfields.covers field hfield).append rest)
    · refine List.forall_mem_cons.2 ⟨hfirst, fun clause hclause ↦ ?_⟩
      obtain ⟨link, hlink, rfl⟩ := List.mem_map.1 hclause
      exact (hlinks link hlink).1
    · intro connective hconnective
      obtain ⟨link, hlink, rfl⟩ := List.mem_map.1 hconnective
      exact (hlinks link hlink).2

theorem span_isIn_of_clause {clause : Clause} (h : clause.IsIn text) :
    ∀ span ∈ clause.spans, span.IsIn text := by
  simp only [Span.isIn_iff]
  cases h with
  | comparison _ hleft hop _ hright _ =>
    simpa [Clause.spans] using ⟨⟨_, hleft⟩, ⟨_, hop⟩, ⟨_, hright⟩⟩
  | bare _ hwritten => exact List.forall_mem_singleton.2 ⟨_, hwritten⟩
  | negated _ hname => exact List.forall_mem_singleton.2 ⟨_, hname⟩

theorem mem_spans {q : Query} {span : Span} :
    span ∈ q.spans ↔ (∃ field ∈ q.fields, field.span = span) ∨
      (∃ clause ∈ q.clauses, span ∈ clause.spans) ∨
      ∃ connective ∈ q.connectives, connective.span = span := by
  unfold spans clauses connectives
  cases q.filter with
  | none => simp
  | some filter =>
    simp only [Option.map_some, Option.getD_some, Filter.spans, List.mem_append, List.mem_map,
      List.mem_flatMap, List.mem_cons]
    grind

theorem IsIn.span_isIn {q : Query} (h : q.IsIn text) : ∀ span ∈ q.spans, span.IsIn text := by
  intro span hspan
  rcases mem_spans.1 hspan with ⟨field, hfield, rfl⟩ | ⟨clause, hclause, hspan⟩ |
    ⟨connective, hconnective, rfl⟩
  · exact Span.isIn_iff.2 ⟨_, h.fields field hfield⟩
  · exact span_isIn_of_clause (h.clauses clause hclause) span hspan
  · obtain ⟨word, hword, -⟩ := h.connectives connective hconnective
    exact Span.isIn_iff.2 ⟨word, hword⟩

end Query

end InventoryQuery
