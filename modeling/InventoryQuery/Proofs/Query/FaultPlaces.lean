import InventoryQuery.Catalog.Hosts
import InventoryQuery.Proofs.Plan.Compile
import InventoryQuery.Proofs.Query.Places

/-!
# Places of faults

A fault in the form of a query is at a part of its text: at a token, at what is left after trimming
a piece of the field list, or at everything from an open quote on.  A fault in its meaning is at
something that the query keeps of its text.
-/

namespace InventoryQuery

/-! ## Faults of form -/

/-- A quote that is left open is at fault up to the end of the text. -/
theorem Token.covers_of_scanFrom {here : Nat} {text : List Char} {e : FormError}
    (h : scanFrom here text = .error e) : ∃ covered, e.span.Covers here text covered := by
  obtain ⟨before, ⟨-, quote, after, rfl, -, -⟩, rfl⟩ := scanFrom_eq_error_iff.1 h
  have hcovers := Span.covers_append here before (quote :: after) []
  rw [List.append_nil, Nat.add_assoc, ← byteCount_append] at hcovers
  exact ⟨quote :: after, hcovers⟩

namespace Query

theorem readField_covers {here : Nat} {piece : List Char} {e : FormError}
    (h : readField here piece = .error e) : e.span.Covers here piece (Text.trim piece) := by
  obtain ⟨left, right, hpiece, -, -, hcount⟩ := Text.exists_trim piece
  simp only [readField, hcount] at h
  have hcovers := Span.covers_append here left (Text.trim piece) right
  rw [← hpiece] at hcovers
  split at h
  · cases h
    exact hcovers
  · split at h
    · cases h
      exact hcovers
    · cases h

theorem readPieces_cons_eq_error_iff {here : Nat} {piece : List Char} {pieces : List (List Char)}
    {e : FormError} :
    readPieces here (piece :: pieces) = .error e ↔
      readField here piece = .error e ∨
        (∃ field, readField here piece = .ok field) ∧
          readPieces (here + byteCount piece + 1) pieces = .error e := by
  rw [readPieces, bind_eq_error_iff]
  simp only [bind_eq_error_iff, pure, Except.pure, reduceCtorEq, and_false, exists_false, or_false,
    exists_and_right]

theorem readPieces_covers {here : Nat} {text : List Char} {e : FormError}
    (h : readPieces here (Text.cutAt ',' text) = .error e) :
    ∃ covered, e.span.Covers here text covered := by
  induction text using Text.cut_induction ',' generalizing here with
  | last piece hcomma =>
    rw [Text.cutAt_of_notMem hcomma, readPieces_cons_eq_error_iff] at h
    rcases h with hpiece | ⟨-, hrest⟩
    · exact ⟨_, readField_covers hpiece⟩
    · cases hrest
  | cons piece rest hcomma ih =>
    rw [Text.cutAt_append hcomma, readPieces_cons_eq_error_iff] at h
    rcases h with hpiece | ⟨-, hrest⟩
    · exact ⟨_, (readField_covers hpiece).append _⟩
    · obtain ⟨covered, hcovered⟩ := ih hrest
      have hcomma : e.span.Covers (here + byteCount piece) (',' :: rest) covered :=
        hcovered.append_left [',']
      exact ⟨covered, hcomma.append_left piece⟩

theorem readFields_covers {text : List Char} {e : FormError} (h : readFields text = .error e) :
    ∃ covered, e.span.Covers 0 text covered := by
  unfold readFields at h
  split at h
  · cases h
    have hwhole := Span.covers_whole 0 text
    rw [Nat.zero_add] at hwhole
    exact ⟨text, hwhole⟩
  · exact readPieces_covers h

/-- The fault is at one of the tokens. -/
def AtToken (tokens : List Token) (e : FormError) : Prop := ∃ t ∈ tokens, t.span = e.span

theorem AtToken.of_subset {tokens tokens' : List Token} {e : FormError} (h : AtToken tokens e)
    (hsubset : tokens ⊆ tokens') : AtToken tokens' e := by
  obtain ⟨t, ht, hspan⟩ := h
  exact ⟨t, hsubset ht, hspan⟩

theorem readClause_atToken {field : Token} {tokens : List Token} {e : FormError}
    (h : readClause field tokens = .error e) : AtToken (field :: tokens) e := by
  unfold readClause at h
  split at h
  · cases h
    exact ⟨field, by simp, rfl⟩
  · split at h
    · cases h
      exact ⟨field, by simp, rfl⟩
    · split at h
      · cases h
      · next next tail =>
        split at h
        · cases h
          exact ⟨next, by simp, rfl⟩
        · next value tail' _ =>
          split at h
          · cases h
            exact ⟨value, by simp, rfl⟩
          · cases h
        · split at h
          · cases h
          · cases h
            exact ⟨next, by simp, rfl⟩

theorem subset_of_readClause {field : Token} {tokens rest : List Token} {clause : Clause}
    (h : readClause field tokens = .ok (clause, rest)) : rest ⊆ field :: tokens := by
  obtain ⟨used, hused, -⟩ := readClause_sound h
  rw [hused]
  exact List.subset_append_right used rest

theorem readRest_atToken {tokens : List Token} {e : FormError} (h : readRest tokens = .error e) :
    AtToken tokens e := by
  fun_induction readRest tokens with
  | case1 => cases h
  | case2 word rest =>
    cases h
    exact ⟨word, by simp, rfl⟩
  | case3 word connective =>
    cases h
    exact ⟨word, by simp, rfl⟩
  | case4 word connective field rest hword e' hread =>
    cases h
    exact (readClause_atToken hread).of_subset (List.subset_cons_self word (field :: rest))
  | case5 word connective field rest hword clause after hread ih =>
    exact (ih (map_eq_error_iff.1 h)).of_subset
      (List.subset_cons_of_subset word (subset_of_readClause hread))

theorem readFilter_atToken {word : Token} {tokens : List Token} {e : FormError}
    (h : readFilter word.span tokens = .error e) : AtToken (word :: tokens) e := by
  cases tokens with
  | nil =>
    cases h
    exact ⟨word, by simp, rfl⟩
  | cons field tail =>
    rcases bind_eq_error_iff.1 h with hclause | ⟨⟨clause, after⟩, hclause, h⟩
    · exact (readClause_atToken hclause).of_subset (List.subset_cons_self word (field :: tail))
    · rcases bind_eq_error_iff.1 h with hrest | ⟨others, -, h⟩
      · exact (readRest_atToken hrest).of_subset
          (List.subset_cons_of_subset word (subset_of_readClause hclause))
      · cases h

/-- The second `where` is at fault, or the field list before the first one, or what is after it. -/
theorem read_isIn_of_where {source : String} {before after : List Token} {word : Token}
    {e : FormError} (hcuts : Token.Cuts 0 source.toList (before ++ word :: after))
    (hword : word.isWhere = true) (hbefore : ∀ t ∈ before, t.isWhere = false)
    (h : read source = .error e) : e.span.IsIn source.toList := by
  obtain ⟨head, rest, htext, hstart⟩ := exists_head hcuts
  have htokens : Token.scan source = .ok (before ++ word :: after) :=
    Token.scanFrom_eq_ok_iff.2 hcuts
  have hhead : Span.takeBytes word.span.start source.toList = some head :=
    Span.takeBytes_eq_some_iff.2 ⟨rest, htext, hstart⟩
  have hin : AtToken (word :: after) e → e.span.IsIn source.toList := by
    rintro ⟨t, ht, hspan⟩
    obtain ⟨written, -, hcovers⟩ := (hcuts.isIn t (List.mem_append_right before ht)).spelled
    exact hspan ▸ hcovers.isIn
  unfold read at h
  simp only [htokens, ok_bind, dropWhile_where_append hbefore hword, hhead, Option.getD_some] at h
  cases hsecond : after.find? (·.isWhere) with
  | some second =>
    rw [hsecond] at h
    cases h
    exact hin ⟨second, List.mem_cons_of_mem word (List.mem_of_find?_eq_some hsecond), rfl⟩
  | none =>
    rw [hsecond] at h
    rcases bind_eq_error_iff.1 h with hfields | ⟨fields, -, h⟩
    · obtain ⟨covered, hcovers⟩ := readFields_covers hfields
      rw [htext]
      exact (hcovers.append rest).isIn
    · rcases bind_eq_error_iff.1 h with hfilter | ⟨filter, -, h⟩
      · exact hin (readFilter_atToken hfilter)
      · cases h

theorem read_isIn {source : String} {e : FormError} (h : read source = .error e) :
    e.span.IsIn source.toList := by
  cases htokens : Token.scan source with
  | error e' =>
    have hsame : e' = e := by
      unfold read at h
      rw [htokens] at h
      exact Except.error.inj h
    obtain ⟨covered, hcovers⟩ := Token.covers_of_scanFrom htokens
    exact hsame ▸ hcovers.isIn
  | ok tokens =>
    have hcuts : Token.Cuts 0 source.toList tokens := Token.scanFrom_eq_ok_iff.1 htokens
    rcases where_cases tokens with hnone | ⟨before, word, after, rfl, hword, hbefore⟩
    · have hdrop : tokens.dropWhile (!·.isWhere) = [] :=
        List.dropWhile_eq_nil_iff.2 fun t ht ↦ by simp [hnone t ht]
      unfold read at h
      simp only [htokens, ok_bind, hdrop] at h
      rcases bind_eq_error_iff.1 h with hfields | ⟨fields, -, h⟩
      · obtain ⟨covered, hcovers⟩ := readFields_covers hfields
        exact hcovers.isIn
      · cases h
    · exact read_isIn_of_where hcuts hword hbefore h

end Query

/-! ## Faults of meaning -/

section Meaning

variable {c : Catalog} {inventory : Inventory} {e : PlanError}

theorem Catalog.span_of_resolve {token : Located String} (h : c.resolve token = .error e) :
    e.span = token.span := by
  unfold resolve at h
  split at h
  · cases h
  · cases h
    rfl

namespace Plan

theorem span_of_givenValue {f : Field} {test : Test} {literal : Located String}
    (h : givenValue inventory f test literal = .error e) : e.span = literal.span := by
  unfold givenValue at h
  dsimp only at h
  split at h
  · cases h
  · split at h
    · cases h
    · split at h
      · obtain ⟨fault, -, rfl⟩ := mapError_eq_error_iff.1 h
        rfl
      · obtain ⟨fault, -, rfl⟩ := mapError_eq_error_iff.1 h
        rfl

/-- A name that does not resolve is at fault, or one of a computed field, or the operator or the
value of a comparison. -/
theorem mem_spans_of_block {clause : Clause} (h : block c inventory clause = .error e) :
    e.span ∈ clause.spans := by
  have hfield : clause.field.span ∈ clause.spans := by
    cases clause with
    | comparison => exact List.mem_cons_self
    | bare => exact List.mem_cons_self
  unfold block at h
  rcases bind_eq_error_iff.1 h with hresolve | ⟨f, -, h⟩
  · rwa [Catalog.span_of_resolve hresolve]
  · cases hcomputed : f.isComputed with
    | true =>
      rw [hcomputed] at h
      cases h
      exact hfield
    | false =>
      simp only [hcomputed, Bool.false_eq_true, if_false] at h
      cases clause with
      | bare => cases h
      | comparison field op value =>
        dsimp only at h
        split at h
        · cases h
          simp [Clause.spans]
        · rcases bind_eq_error_iff.1 h with hgiven | ⟨given, -, h⟩
          · simp [Clause.spans, span_of_givenValue hgiven]
          · cases h

theorem mem_spans_of_ofQuery {q : Query} (h : ofQuery c inventory q = .error e) :
    e.span ∈ q.spans := by
  rw [Query.mem_spans]
  rcases bind_eq_error_iff.1 h with hfields | ⟨fields, -, h⟩
  · obtain ⟨field, hfield, hresolve⟩ := exists_of_mapM_eq_error hfields
    exact .inl ⟨field, hfield, (Catalog.span_of_resolve hresolve).symm⟩
  · right
    left
    unfold Query.clauses
    cases hfilter : q.filter with
    | none =>
      rw [hfilter] at h
      cases h
    | some filter =>
      rw [hfilter] at h
      rcases bind_eq_error_iff.1 h with hfirst | ⟨first, -, h⟩
      · exact ⟨filter.first, List.mem_cons_self, mem_spans_of_block hfirst⟩
      · rcases bind_eq_error_iff.1 h with hrest | ⟨rest, -, h⟩
        · obtain ⟨link, hlink, hblock⟩ := exists_of_mapM_eq_error hrest
          have hmem : link.2 ∈ filter.first :: filter.rest.map (·.2) :=
            List.mem_cons_of_mem _ (List.mem_map_of_mem hlink)
          rcases bind_eq_error_iff.1 hblock with hblock | ⟨b, -, hblock⟩
          · exact ⟨link.2, hmem, mem_spans_of_block hblock⟩
          · cases hblock
        · cases h

theorem span_isIn_of_ofSource {source : String} {e : QueryError}
    (h : ofSource c inventory source = .error e) :
    ∃ span, e.span? = some span ∧ span.IsIn source.toList := by
  rcases bind_eq_error_iff.1 h with hread | ⟨q, hread, hquery⟩
  · obtain ⟨e', he', rfl⟩ := mapError_eq_error_iff.1 hread
    exact ⟨e'.span, rfl, Query.read_isIn he'⟩
  · obtain ⟨e', he', rfl⟩ := mapError_eq_error_iff.1 hquery
    have hq := Query.read_eq_ok_iff_derives.1 (mapError_eq_ok_iff.1 hread)
    exact ⟨e'.span, rfl, hq.isIn.span_isIn e'.span (mem_spans_of_ofQuery he')⟩

end Plan

end Meaning

/-- What a query keeps of its text is at its spans, which are parts of the text, one after another.
A text that is no query, or a query without a plan, is at fault at a part of the text. -/
theorem Query.spans_isIn_source (source : String) :
    (∀ q, read source = .ok q →
      q.IsIn source.toList ∧ ∀ span ∈ q.spans, span.IsIn source.toList) ∧
      (∀ e, read source = .error e → e.span.IsIn source.toList) ∧
      ∀ c inventory e, Plan.ofSource c inventory source = .error e →
        ∃ span, e.span? = some span ∧ span.IsIn source.toList := by
  refine ⟨fun q h ↦ ?_, fun e ↦ read_isIn, fun c inventory e ↦ Plan.span_isIn_of_ofSource⟩
  have hq := (read_eq_ok_iff_derives.1 h).isIn
  exact ⟨hq, hq.span_isIn⟩

/-- Letters of two bytes, a quoted value, a value with `%20` and a negated field; and faults in a
list without a comma and at a name that does not resolve. -/
theorem Query.spans_isIn_source_of_umlaut :
    let source := "fqdn, größe where größe = 'ä ö' and os =~ a%20b or !ü"
    (∃ q, read source = .ok q ∧
      q.spans = [⟨0, 4⟩, ⟨6, 13⟩, ⟨20, 27⟩, ⟨28, 29⟩, ⟨30, 37⟩, ⟨38, 41⟩, ⟨42, 44⟩, ⟨45, 47⟩,
        ⟨48, 53⟩, ⟨54, 56⟩, ⟨58, 60⟩] ∧
      q.IsIn source.toList ∧ ∀ span ∈ q.spans, span.IsIn source.toList) ∧
    (∃ e, read "os, größe arch" = .error e ∧ e.span = ⟨4, 16⟩ ∧
      e.span.IsIn "os, größe arch".toList) ∧
    ∃ e, Plan.ofSource .hosts (.ofTables []) source = .error e ∧ e.span? = some ⟨6, 13⟩ ∧
      ∃ span, e.span? = some span ∧ span.IsIn source.toList := by
  intro source
  have hspans : (read source).toOption.map spans = some [⟨0, 4⟩, ⟨6, 13⟩, ⟨20, 27⟩, ⟨28, 29⟩,
      ⟨30, 37⟩, ⟨38, 41⟩, ⟨42, 44⟩, ⟨45, 47⟩, ⟨48, 53⟩, ⟨54, 56⟩, ⟨58, 60⟩] := by
    decide +kernel
  have hform : read "os, größe arch" = .error ⟨.missingComma "größe arch", ⟨4, 16⟩⟩ := by
    decide +kernel
  have hmeaning : Plan.ofSource .hosts (.ofTables []) source =
      .error (.plan ⟨.unknownField "hosts" "größe", ⟨6, 13⟩⟩) := by
    decide +kernel
  obtain ⟨q, hq, hspans⟩ := exists_ok_of_toOption_map hspans
  obtain ⟨hin, hparts⟩ := (spans_isIn_source source).1 q hq
  exact ⟨⟨q, hq, hspans, hin, hparts⟩,
    ⟨_, hform, rfl, (spans_isIn_source _).2.1 _ hform⟩,
    ⟨_, hmeaning, rfl, (spans_isIn_source source).2.2 _ _ _ hmeaning⟩⟩

end InventoryQuery
