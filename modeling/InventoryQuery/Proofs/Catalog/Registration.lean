import InventoryQuery.Catalog.Computed
import InventoryQuery.Proofs.Catalog.Resolve
import Mathlib.Data.List.Induction

/-!
# Catalogs put together

A catalog is put together field by field, in any order and with repeated tokens.  For each of its
tables the last field with a token counts.  A token is resolved to the field that goes by it, or to
an alias that it is the path of, and every token that is listed is resolved to a field with that
token.
-/

namespace InventoryQuery

/-! ## Words in order -/

namespace Text

theorem mem_placeWord {word other : String} {words : List String} :
    other ∈ placeWord word words ↔ other = word ∨ other ∈ words := by
  induction words with
  | nil => simp [placeWord]
  | cons head rest ih =>
    rw [placeWord]
    split
    · rw [List.mem_cons]
    · split
      · simp only [List.mem_cons, ih, or_left_comm]
      · next notBefore notAfter =>
        obtain rfl : word = head := String.le_antisymm notAfter notBefore
        simp

theorem mem_sortedWords {word : String} {words : List String} :
    word ∈ sortedWords words ↔ word ∈ words := by
  induction words with
  | nil => rfl
  | cons head rest ih =>
    unfold sortedWords at ih ⊢
    rw [List.foldr_cons, mem_placeWord, ih, List.mem_cons]

end Text

/-! ## Fields put into a table -/

namespace FieldTable

theorem find?_place (f : Field) (fields : List Field) (token : String) :
    (place f fields).find? (·.token == token) =
      if f.token = token then some f else fields.find? (·.token == token) := by
  have hfirst (rest : List Field) : (f :: rest).find? (·.token == token) =
      if f.token = token then some f else rest.find? (·.token == token) := by
    by_cases hf : f.token = token <;> simp [hf]
  induction fields with
  | nil => exact hfirst []
  | cons g rest ih =>
    rw [place]
    split
    · exact hfirst (g :: rest)
    · split
      · next _ hlt =>
        by_cases hg : g.token = token
        · have hf : f.token ≠ token := fun hf ↦ String.lt_irrefl g.token (by rwa [hf, ← hg] at hlt)
          simp [hg, hf]
        · simp only [List.find?_cons, beq_eq_false_iff_ne.2 hg, ih]
      · next hbefore hafter =>
        have hsame : f.token = g.token := String.le_antisymm hafter hbefore
        by_cases hf : f.token = token
        · simp [hf]
        · simp [hf, hsame ▸ hf]

/-- A field takes the place of any other with its token. -/
theorem find?_insert (table : FieldTable) (f : Field) (token : String) :
    (table.insert f).find? token = if f.token = token then some f else table.find? token :=
  find?_place f table.fields token

theorem mem_tokens_iff {table : FieldTable} {token : String} :
    token ∈ table.tokens ↔ ∃ f, table.find? token = some f := by
  simp only [tokens, List.mem_map, find?_eq_some_iff]

end FieldTable

namespace Catalog

/-! ## Splitting paths -/

theorem splitPath_eq_some {text before after : List Char}
    (h : splitPath text = some (before, after)) :
    text = before ++ pathSeparator.toList ++ after := by
  fun_induction splitPath text generalizing before with
  | case1 => cases h
  | case2 c rest before' after' hrest ih =>
    cases h
    rw [ih hrest, List.cons_append, List.cons_append]
  | case3 =>
    cases h
    rfl
  | case4 => cases h

/-- A token that is a path leads to an alias with this path. -/
theorem path_of_resolvePath {c : Catalog} {token : String} {f : Field}
    (h : c.resolvePath token = some f) :
    f.path ≠ [] ∧ token = f.pathName ++ pathSeparator ++ f.key := by
  obtain ⟨⟨path, key⟩, hsplit, hfound⟩ := Option.bind_eq_some_iff.1 h
  have htest := List.find?_some hfound
  simp only [Bool.and_eq_true, Bool.not_eq_true', beq_iff_eq] at htest
  obtain ⟨⟨hsome, hpath⟩, hkey⟩ := htest
  refine ⟨by simpa using hsome, String.toList_inj.1 ?_⟩
  rw [splitPath_eq_some hsplit, hpath, hkey]
  simp only [String.toList_append, String.toList_ofList]

/-- A token is the field's own, or the path of an alias. -/
theorem token_of_resolve? {c : Catalog} {token : String} {f : Field}
    (h : c.resolve? token = some f) :
    token = f.token ∨
      f ∈ c.aliases.fields ∧ f.path ≠ [] ∧ token = f.pathName ++ pathSeparator ++ f.key := by
  rcases resolve?_cases h with hfound | ⟨-, hfound | ⟨-, hfound | hfound⟩⟩
  · exact .inl (FieldTable.find?_eq_some_iff.1 hfound).2.symm
  · exact .inl (FieldTable.find?_eq_some_iff.1 hfound).2.symm
  · exact .inl (FieldTable.find?_eq_some_iff.1 hfound).2.symm
  · exact .inr ⟨mem_aliases_of_resolvePath hfound, path_of_resolvePath hfound⟩

/-! ## Putting fields in -/

/-- The tables of a catalog. -/
inductive Place
  | fields
  | aliases
  | computed
  deriving DecidableEq

def table (c : Catalog) : Place → FieldTable
  | .fields => c.fields
  | .aliases => c.aliases
  | .computed => c.computed

/-- A field and the table that it is put into. -/
structure Entry where
  place : Place
  field : Field

def register (c : Catalog) (e : Entry) : Catalog :=
  match e.place with
  | .fields => c.withField e.field
  | .aliases => c.withAlias e.field
  | .computed => c.withComputed e.field

/-- The catalog of a table into which fields were put one after the other. -/
def registered (entity : String) (entries : List Entry) : Catalog :=
  entries.foldl register (empty entity)

/-- The field that was the last one put into a table with a token. -/
def latest? (entries : List Entry) (place : Place) (token : String) : Option Field :=
  (entries.reverse.find? fun e ↦ e.place = place && e.field.token == token).map (·.field)

theorem table_register (c : Catalog) (e : Entry) (place : Place) :
    (c.register e).table place =
      if e.place = place then (c.table place).insert e.field else c.table place := by
  obtain ⟨kept, f⟩ := e
  cases kept <;> cases place <;> rfl

theorem latest?_concat (entries : List Entry) (e : Entry) (place : Place) (token : String) :
    latest? (entries ++ [e]) place token =
      if e.place = place ∧ e.field.token = token then some e.field
      else latest? entries place token := by
  unfold latest?
  rw [List.reverse_append, List.reverse_singleton, List.singleton_append, List.find?_cons]
  by_cases h : e.place = place ∧ e.field.token = token
  · simp [h]
  · rw [if_neg h]
    have htest : (decide (e.place = place) && e.field.token == token) = false := by
      simpa [not_and_or] using h
    rw [htest]

/-- Whatever was put in before, the last field with a token counts. -/
theorem find?_table_registered (entity : String) (entries : List Entry) (place : Place)
    (token : String) :
    ((registered entity entries).table place).find? token = latest? entries place token := by
  induction entries using List.reverseRecOn with
  | nil => cases place <;> rfl
  | append_singleton entries e ih =>
    have hstep : registered entity (entries ++ [e]) = (registered entity entries).register e :=
      List.foldl_concat ..
    rw [hstep, table_register, latest?_concat, ← ih]
    by_cases hplace : e.place = place
    · simp [hplace, FieldTable.find?_insert]
    · simp [hplace]

theorem exists_latest?_of_mem {entries : List Entry} {e : Entry} (he : e ∈ entries) :
    ∃ f, latest? entries e.place e.field.token = some f := by
  have hsome : (entries.reverse.find? fun e' ↦
      e'.place = e.place && e'.field.token == e.field.token).isSome = true :=
    List.find?_isSome.2 ⟨e, List.mem_reverse.2 he, by simp⟩
  obtain ⟨e', he'⟩ := Option.isSome_iff_exists.1 hsome
  exact ⟨e'.field, by rw [latest?, he', Option.map_some]⟩

theorem mem_of_latest?_eq_some {entries : List Entry} {place : Place} {token : String} {f : Field}
    (h : latest? entries place token = some f) : ⟨place, f⟩ ∈ entries ∧ f.token = token := by
  obtain ⟨e, he, rfl⟩ := Option.map_eq_some_iff.1 h
  have htest := List.find?_some he
  simp only [Bool.and_eq_true, decide_eq_true_eq, beq_iff_eq] at htest
  obtain ⟨rfl, htoken⟩ := htest
  exact ⟨List.mem_reverse.1 (List.mem_of_find?_eq_some he), htoken⟩

/-! ## Listed tokens -/

theorem mem_tokens_iff {c : Catalog} {token : String} :
    token ∈ c.tokens ↔ ∃ place f, (c.table place).find? token = some f := by
  have hplaces : (∃ place f, (c.table place).find? token = some f) ↔
      (∃ f, c.fields.find? token = some f) ∨ (∃ f, c.aliases.find? token = some f) ∨
        ∃ f, c.computed.find? token = some f := by
    constructor
    · rintro ⟨place, f, hf⟩
      cases place with
      | fields => exact .inl ⟨f, hf⟩
      | aliases => exact .inr (.inl ⟨f, hf⟩)
      | computed => exact .inr (.inr ⟨f, hf⟩)
    · rintro (⟨f, hf⟩ | ⟨f, hf⟩ | ⟨f, hf⟩)
      · exact ⟨.fields, f, hf⟩
      · exact ⟨.aliases, f, hf⟩
      · exact ⟨.computed, f, hf⟩
  rw [hplaces, ← FieldTable.mem_tokens_iff, ← FieldTable.mem_tokens_iff,
    ← FieldTable.mem_tokens_iff]
  simp only [tokens, Text.mem_sortedWords, allFields, List.map_append, List.mem_append,
    FieldTable.tokens, or_assoc]

/-- A token of some table is resolved in the first of the tables that has it. -/
theorem exists_resolve?_of_table {c : Catalog} {place : Place} {token : String} {f : Field}
    (h : (c.table place).find? token = some f) :
    ∃ first g, (c.table first).find? token = some g ∧ c.resolve? token = some g := by
  unfold resolve?
  cases halias : c.aliases.find? token with
  | some g => exact ⟨.aliases, g, halias, rfl⟩
  | none =>
    cases hfield : c.fields.find? token with
    | some g => exact ⟨.fields, g, hfield, rfl⟩
    | none =>
      cases place with
      | fields => cases hfield.symm.trans h
      | aliases => cases halias.symm.trans h
      | computed =>
        have hcomputed : c.computed.find? token = some f := h
        exact ⟨.computed, f, h, by rw [hcomputed]; rfl⟩

theorem exists_resolve?_of_mem_tokens {c : Catalog} {token : String} (h : token ∈ c.tokens) :
    ∃ f, c.resolve? token = some f ∧ f.token = token := by
  obtain ⟨place, f, hf⟩ := mem_tokens_iff.1 h
  obtain ⟨first, g, hg, hresolved⟩ := exists_resolve?_of_table hf
  exact ⟨g, hresolved, (FieldTable.find?_eq_some_iff.1 hg).2⟩

theorem mem_tokens_registered_iff {entity : String} {entries : List Entry} {token : String} :
    token ∈ (registered entity entries).tokens ↔ ∃ e ∈ entries, e.field.token = token := by
  simp only [mem_tokens_iff, find?_table_registered]
  constructor
  · rintro ⟨place, f, hf⟩
    obtain ⟨hmem, htoken⟩ := mem_of_latest?_eq_some hf
    exact ⟨⟨place, f⟩, hmem, htoken⟩
  · rintro ⟨e, he, rfl⟩
    exact ⟨e.place, exists_latest?_of_mem he⟩

/-- In a catalog that is put together in any way, what a token is resolved to goes by its own token
as well, and the token is this one, or the path of an alias.  So resolved fields with the same token
are the same, and the tokens that are listed, which are those of the fields put in, are resolved to
fields that have them. -/
theorem resolve?_registered_canonical (entity : String) (entries : List Entry) :
    (∀ token f, (registered entity entries).resolve? token = some f →
      (registered entity entries).resolve? f.token = some f ∧
        (token = f.token ∨
          latest? entries .aliases f.token = some f ∧ f.path ≠ [] ∧
            token = f.pathName ++ pathSeparator ++ f.key)) ∧
      (∀ token other f g, (registered entity entries).resolve? token = some f →
        (registered entity entries).resolve? other = some g → f.token = g.token → f = g) ∧
      (∀ token ∈ (registered entity entries).tokens,
        ∃ f, (registered entity entries).resolve? token = some f ∧ f.token = token) ∧
      ∀ token, token ∈ (registered entity entries).tokens ↔
        ∃ e ∈ entries, e.field.token = token := by
  refine ⟨fun token f h ↦ ⟨resolve?_token h, ?_⟩,
    fun _ _ _ _ ↦ eq_of_resolve?_of_token_eq, fun _ ↦ exists_resolve?_of_mem_tokens,
    fun _ ↦ mem_tokens_registered_iff⟩
  refine (token_of_resolve? h).imp_right fun ⟨hmem, hpath⟩ ↦ ⟨?_, hpath⟩
  rw [← find?_table_registered entity]
  exact FieldTable.find?_eq_some_iff.2 ⟨hmem, rfl⟩

/-- An alias that is put in twice, over a stored field and a computed one with its token, is found
by its path as it was put in last. -/
theorem resolve?_registered_canonical_of_location :
    let location := (((Field.stored "location_room" .text).through "enclosure" "enclosures").renamed
      "location")
    let entries : List Entry := [⟨.aliases, location⟩, ⟨.fields, .stored "location" .text⟩,
      ⟨.computed, .computed "location" .text .mac⟩, ⟨.aliases, location.labelled "Room"⟩]
    (registered "hosts" entries).resolve? "enclosure__location_room" =
        some (location.labelled "Room") ∧
      (registered "hosts" entries).resolve? "location" = some (location.labelled "Room") := by
  intro location entries
  have hfound : (registered "hosts" entries).resolve? "enclosure__location_room" =
      some (location.labelled "Room") := by decide
  exact ⟨hfound, ((resolve?_registered_canonical "hosts" entries).1 _ _ hfound).1⟩

end Catalog

end InventoryQuery
