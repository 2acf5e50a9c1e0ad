import InventoryQuery.Proofs.Query.Conditions
import InventoryQuery.Proofs.Query.FieldList
import InventoryQuery.Proofs.Query.Tiling

/-!
# The grammar of queries

What a query is, told without a parser: a field list, or a field list, the word `where` and
conditions.  The parser accepts the texts that are queries in this sense, and what it makes of a
text is the only query that the text is.
-/

namespace InventoryQuery.Query

/-- A source text is a query. -/
inductive Derives (source : String) : Query → Prop
  | unfiltered {tokens : List Token} {fields : List (Located String)}
      (htokens : Token.Cuts 0 source.toList tokens) (hwhere : ∀ t ∈ tokens, t.isWhere = false)
      (hfields : FieldList 0 source.toList fields) :
      Derives source ⟨fields, none, 0, byteCount source.toList⟩
  | filtered {before after : List Token} {word : Token} {head rest : List Char}
      {fields : List (Located String)} {filter : Filter}
      (htokens : Token.Cuts 0 source.toList (before ++ word :: after))
      (hword : word.isWhere = true) (honly : ∀ t ∈ before ++ after, t.isWhere = false)
      (htext : source.toList = head ++ rest) (hstart : byteCount head = word.span.start)
      (hfields : FieldList 0 head fields) (hfilter : FilterOf after filter) :
      Derives source ⟨fields, some filter, 0, byteCount source.toList⟩

/-- The text that the fields are in, for a text with some tokens: everything before `where`. -/
def FieldText (source : String) (tokens : List Token) (head : List Char) : Prop :=
  match tokens.find? (·.isWhere) with
  | none => head = source.toList
  | some word => ∃ rest, source.toList = head ++ rest ∧ byteCount head = word.span.start

/-- What a text with some tokens has to be for a query, part by part. -/
structure Acceptable (source : String) (tokens : List Token) : Prop where
  oneWhere : (tokens.filter (·.isWhere)).length ≤ 1
  fields : ∃ head, FieldText source tokens head ∧ Text.trim head ≠ [] ∧
    ∃ fields, FieldList 0 head fields
  conditions : ∀ before word after, tokens = before ++ word :: after →
    (∀ t ∈ before, t.isWhere = false) → word.isWhere = true → ∃ filter, FilterOf after filter

/-! ## The word `where` among tokens -/

section Where

variable {tokens before after : List Token} {word : Token}

theorem find?_where_eq_none (hwhere : ∀ t ∈ tokens, t.isWhere = false) :
    tokens.find? (·.isWhere) = none :=
  List.find?_eq_none.2 fun t ht ↦ by simp [hwhere t ht]

theorem filter_where_eq_nil (hwhere : ∀ t ∈ tokens, t.isWhere = false) :
    tokens.filter (·.isWhere) = [] :=
  List.filter_eq_nil_iff.2 fun t ht ↦ by simp [hwhere t ht]

theorem find?_where_append (hbefore : ∀ t ∈ before, t.isWhere = false)
    (hword : word.isWhere = true) :
    (before ++ word :: after).find? (·.isWhere) = some word :=
  List.find?_eq_some_iff_append.2
    ⟨hword, before, after, rfl, fun t ht ↦ by simp [hbefore t ht]⟩

theorem dropWhile_where_append (hbefore : ∀ t ∈ before, t.isWhere = false)
    (hword : word.isWhere = true) :
    (before ++ word :: after).dropWhile (!·.isWhere) = word :: after :=
  dropWhile_run (fun t ht ↦ by simp [hbefore t ht]) (by simp [hword])

/-- Either there is no `where`, or there is a first one. -/
theorem where_cases (tokens : List Token) :
    (∀ t ∈ tokens, t.isWhere = false) ∨
      ∃ before word after, tokens = before ++ word :: after ∧ word.isWhere = true ∧
        ∀ t ∈ before, t.isWhere = false := by
  cases hfind : tokens.find? (·.isWhere) with
  | none => exact .inl (by simpa using List.find?_eq_none.1 hfind)
  | some word =>
    obtain ⟨hword, before, after, htokens, hbefore⟩ := List.find?_eq_some_iff_append.1 hfind
    exact .inr ⟨before, word, after, htokens, hword, by simpa using hbefore⟩

end Where

/-! ## Reading -/

theorem read_of_where_notMem {source : String} {tokens : List Token}
    (htokens : Token.scan source = .ok tokens) (hwhere : ∀ t ∈ tokens, t.isWhere = false)
    {q : Query} :
    read source = .ok q ↔
      ∃ fields, FieldList 0 source.toList fields ∧
        q = ⟨fields, none, 0, byteCount source.toList⟩ := by
  have hdrop : tokens.dropWhile (!·.isWhere) = [] :=
    List.dropWhile_eq_nil_iff.2 fun t ht ↦ by simp [hwhere t ht]
  unfold read
  simp only [htokens, ok_bind, hdrop]
  rw [bind_eq_ok_iff]
  simp only [readFields_eq_ok_iff, pure_eq_ok_iff]

theorem read_of_where {source : String} {before after : List Token} {word : Token}
    (htokens : Token.scan source = .ok (before ++ word :: after)) (hword : word.isWhere = true)
    (hbefore : ∀ t ∈ before, t.isWhere = false) {head rest : List Char}
    (htext : source.toList = head ++ rest) (hstart : byteCount head = word.span.start)
    {q : Query} :
    read source = .ok q ↔
      (∀ t ∈ after, t.isWhere = false) ∧ ∃ fields filter, FieldList 0 head fields ∧
        FilterOf after filter ∧ q = ⟨fields, some filter, 0, byteCount source.toList⟩ := by
  have hdrop : (before ++ word :: after).dropWhile (!·.isWhere) = word :: after :=
    dropWhile_where_append hbefore hword
  have hhead : Span.takeBytes word.span.start source.toList = some head := by
    rw [htext, ← hstart]
    exact Span.takeBytes_byteCount_append head rest
  unfold read
  simp only [htokens, ok_bind, hdrop, hhead, Option.getD_some]
  cases hsecond : after.find? (·.isWhere) with
  | some second =>
    have hnot : ¬∀ t ∈ after, t.isWhere = false := by
      intro hall
      have hwhere := List.find?_some hsecond
      rw [hall second (List.mem_of_find?_eq_some hsecond)] at hwhere
      cases hwhere
    rw [iff_false_right (fun h ↦ hnot h.1)]
    intro h
    cases h
  | none =>
    have hall : ∀ t ∈ after, t.isWhere = false := by simpa using List.find?_eq_none.1 hsecond
    rw [bind_eq_ok_iff, and_iff_right hall]
    apply exists_congr
    intro fields
    rw [bind_eq_ok_iff, readFields_eq_ok_iff]
    simp only [readFilter_eq_ok_iff, pure_eq_ok_iff, exists_and_left]

/-- The text before a token, as far as the token is from the start. -/
theorem exists_head {source : String} {before after : List Token} {word : Token}
    (htokens : Token.Cuts 0 source.toList (before ++ word :: after)) :
    ∃ head rest, source.toList = head ++ rest ∧ byteCount head = word.span.start := by
  obtain ⟨head, written, rest, htext, hstart, -⟩ := htokens.tiles.stands word (by simp)
  exact ⟨head, written ++ rest, by rw [htext, List.append_assoc], by rw [hstart, Nat.zero_add]⟩

/-- The parser finds the queries of the grammar, and nothing else. -/
theorem read_eq_ok_iff_derives {source : String} {q : Query} :
    read source = .ok q ↔ Derives source q := by
  constructor
  · intro h
    obtain ⟨tokens, htokens, -⟩ := bind_eq_ok_iff.1 h
    have hcuts : Token.Cuts 0 source.toList tokens := Token.scanFrom_eq_ok_iff.1 htokens
    rcases where_cases tokens with hnone | ⟨before, word, after, rfl, hword, hbefore⟩
    · obtain ⟨fields, hfields, rfl⟩ := (read_of_where_notMem htokens hnone).1 h
      exact .unfiltered hcuts hnone hfields
    · obtain ⟨head, rest, htext, hstart⟩ := exists_head hcuts
      obtain ⟨hafter, fields, filter, hfields, hfilter, rfl⟩ :=
        (read_of_where htokens hword hbefore htext hstart).1 h
      have honly : ∀ t ∈ before ++ after, t.isWhere = false :=
        List.forall_mem_append.2 ⟨hbefore, hafter⟩
      exact .filtered hcuts hword honly htext hstart hfields hfilter
  · intro h
    cases h with
    | unfiltered htokens hwhere hfields =>
      exact (read_of_where_notMem (Token.scanFrom_eq_ok_iff.2 htokens) hwhere).2
        ⟨_, hfields, rfl⟩
    | filtered htokens hword honly htext hstart hfields hfilter =>
      obtain ⟨hbefore, hafter⟩ := List.forall_mem_append.1 honly
      exact (read_of_where (Token.scanFrom_eq_ok_iff.2 htokens) hword hbefore htext hstart).2
        ⟨hafter, _, _, hfields, hfilter, rfl⟩

/-! ## What is accepted -/

theorem Derives.acceptable {source : String} {q : Query} (h : Derives source q) :
    ∃ tokens, Token.Cuts 0 source.toList tokens ∧ Acceptable source tokens := by
  cases h with
  | @unfiltered tokens fields htokens hwhere hfields =>
    refine ⟨tokens, htokens, ⟨?_, ?_, ?_⟩⟩
    · rw [filter_where_eq_nil hwhere]
      exact Nat.zero_le 1
    · refine ⟨source.toList, ?_, hfields.trim_ne_nil, fields, hfields⟩
      simp only [FieldText, find?_where_eq_none hwhere]
    · rintro before word after rfl - hword
      rw [hwhere word (List.mem_append_right before List.mem_cons_self)] at hword
      cases hword
  | @filtered before after word head rest fields filter htokens hword honly htext hstart hfields
      hfilter =>
    obtain ⟨hbefore, hafter⟩ := List.forall_mem_append.1 honly
    refine ⟨before ++ word :: after, htokens, ⟨?_, ?_, ?_⟩⟩
    · rw [List.filter_append, List.filter_cons_of_pos hword, filter_where_eq_nil hbefore,
        filter_where_eq_nil hafter]
      exact Nat.le_refl 1
    · refine ⟨head, ?_, hfields.trim_ne_nil, fields, hfields⟩
      simp only [FieldText, find?_where_append hbefore hword]
      exact ⟨rest, htext, hstart⟩
    · intro before' word' after' htokens' hbefore' hword'
      have heq := congrArg (List.dropWhile (!·.isWhere)) htokens'
      rw [dropWhile_where_append hbefore hword, dropWhile_where_append hbefore' hword'] at heq
      exact ⟨filter, (List.cons.inj heq).2 ▸ hfilter⟩

theorem Acceptable.derives {source : String} {tokens : List Token}
    (htokens : Token.Cuts 0 source.toList tokens) (h : Acceptable source tokens) :
    ∃ q, Derives source q := by
  obtain ⟨head, htext, -, fields, hfields⟩ := h.fields
  rcases where_cases tokens with hnone | ⟨before, word, after, rfl, hword, hbefore⟩
  · simp only [FieldText, find?_where_eq_none hnone] at htext
    exact ⟨_, .unfiltered htokens hnone (htext ▸ hfields)⟩
  · simp only [FieldText, find?_where_append hbefore hword] at htext
    obtain ⟨rest, htext, hstart⟩ := htext
    obtain ⟨filter, hfilter⟩ := h.conditions before word after rfl hbefore hword
    have hafter : ∀ t ∈ after, t.isWhere = false := by
      have hone := h.oneWhere
      rw [List.filter_append, List.filter_cons_of_pos hword, filter_where_eq_nil hbefore] at hone
      have hempty : after.filter (·.isWhere) = [] :=
        List.eq_nil_of_length_eq_zero (Nat.le_zero.1 (Nat.le_of_succ_le_succ hone))
      simpa using List.filter_eq_nil_iff.1 hempty
    exact ⟨_, .filtered htokens hword (List.forall_mem_append.2 ⟨hbefore, hafter⟩) htext hstart
      hfields hfilter⟩

/-- A text is read exactly when it leaves no quote open and its tokens are those of a query.  What
it is read as is the only query that the text is, in which there is one connective less than
clauses. -/
theorem read_grammar (source : String) :
    (∀ q, read source = .ok q ↔ Derives source q) ∧
      ((∃ q, read source = .ok q) ↔
        Token.QuotesClosed source.toList ∧
          ∃ tokens, Token.Cuts 0 source.toList tokens ∧ Acceptable source tokens) ∧
      (∀ q q', Derives source q → Derives source q' → q = q') ∧
      ∀ q, Derives source q → q.clauses ≠ [] → q.connectives.length + 1 = q.clauses.length := by
  refine ⟨fun q ↦ read_eq_ok_iff_derives, ?_, fun q q' h h' ↦ ?_, fun q _ hsome ↦ ?_⟩
  · simp only [read_eq_ok_iff_derives]
    constructor
    · rintro ⟨q, h⟩
      obtain ⟨tokens, htokens, hacceptable⟩ := h.acceptable
      exact ⟨Token.exists_cuts_iff.1 ⟨tokens, htokens⟩, tokens, htokens, hacceptable⟩
    · rintro ⟨-, tokens, htokens, hacceptable⟩
      exact hacceptable.derives htokens
  · rw [← read_eq_ok_iff_derives] at h h'
    rw [h] at h'
    exact Except.ok.inj h'
  · unfold clauses connectives at *
    cases hfilter : q.filter with
    | none => simp [hfilter] at hsome
    | some filter => simp

/-- The first field is negated, and the value has one encoded space, since `%2520` is none. -/
theorem read_grammar_of_negated :
    let source := "fqdn where !efi OR comment =~ 'rack%204%2520'"
    let q : Query := ⟨[⟨"fqdn", 0, 4⟩], some ⟨.bare ⟨"efi", 12, 15⟩ true,
      [(⟨.or, 16, 18⟩, .comparison ⟨"comment", 19, 26⟩ ⟨.contains, 27, 29⟩
        ⟨"rack 4%2520", 30, 45⟩)]⟩, 0, 45⟩
    Derives source q ∧ (∀ q', Derives source q' → q' = q) ∧
      Token.QuotesClosed source.toList ∧
      (∃ tokens, Token.Cuts 0 source.toList tokens ∧ Acceptable source tokens) ∧
      q.connectives.length + 1 = q.clauses.length := by
  intro source q
  have hread : read source = .ok q := by decide +kernel
  obtain ⟨hiff, haccepted, hunique, hcount⟩ := read_grammar source
  have hderives : Derives source q := (hiff q).1 hread
  obtain ⟨hclosed, htokens⟩ := haccepted.1 ⟨q, hread⟩
  have hsome : q.clauses ≠ [] := by decide
  exact ⟨hderives, fun q' h ↦ hunique q' q h hderives, hclosed, htokens,
    hcount q hderives hsome⟩

end InventoryQuery.Query
