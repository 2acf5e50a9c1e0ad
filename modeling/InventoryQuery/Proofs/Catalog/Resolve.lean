import InventoryQuery.Catalog.Basic
import Mathlib.Data.List.Nodup

/-!
# What tokens resolve to

Every token that is resolved leads to a field of the catalog, and the field's own token leads to
the same field again.  So among resolved fields the token tells the field, whichever of the three
tables they come from and whatever shadows what.
-/

namespace InventoryQuery

namespace FieldTable

theorem nodup_tokens (table : FieldTable) : table.tokens.Nodup := by
  refine List.pairwise_map.2 (table.sorted.imp ?_)
  intro f g hlt heq
  exact String.lt_irrefl g.token (heq ▸ hlt)

theorem find?_eq_some_iff {table : FieldTable} {token : String} {f : Field} :
    table.find? token = some f ↔ f ∈ table.fields ∧ f.token = token := by
  constructor
  · intro h
    exact ⟨List.mem_of_find?_eq_some h, by simpa using List.find?_some h⟩
  · rintro ⟨hmem, rfl⟩
    have hsome : (table.find? f.token).isSome := List.find?_isSome.2 ⟨f, hmem, by simp⟩
    obtain ⟨g, hg⟩ := Option.isSome_iff_exists.1 hsome
    have htoken : g.token = f.token := by simpa using List.find?_some hg
    have heq : g = f := List.inj_on_of_nodup_map table.nodup_tokens
      (List.mem_of_find?_eq_some hg) hmem htoken
    rw [hg, heq]

end FieldTable

namespace Catalog

/-- The four places where a token is looked for, in order. -/
theorem resolve?_cases {c : Catalog} {token : String} {f : Field} (h : c.resolve? token = some f) :
    c.aliases.find? token = some f ∨
      c.aliases.find? token = none ∧
        (c.fields.find? token = some f ∨
          c.fields.find? token = none ∧
            (c.computed.find? token = some f ∨ c.resolvePath token = some f)) := by
  unfold resolve? at h
  cases halias : c.aliases.find? token with
  | some g => simpa [halias] using h
  | none =>
    cases hfield : c.fields.find? token with
    | some g => simpa [halias, hfield] using h
    | none =>
      refine .inr ⟨rfl, .inr ⟨rfl, ?_⟩⟩
      cases hcomputed : c.computed.find? token with
      | some g => exact .inl (by simpa [halias, hfield, hcomputed] using h)
      | none => exact .inr (by simpa [halias, hfield, hcomputed] using h)

theorem mem_aliases_of_resolvePath {c : Catalog} {token : String} {f : Field}
    (h : c.resolvePath token = some f) : f ∈ c.aliases.fields := by
  unfold resolvePath at h
  cases hsplit : splitPath token.toList with
  | none => simp [hsplit] at h
  | some parts => exact List.mem_of_find?_eq_some (by simpa [hsplit] using h)

theorem mem_allFields_of_resolve? {c : Catalog} {token : String} {f : Field}
    (h : c.resolve? token = some f) : f ∈ c.allFields := by
  unfold allFields
  rw [List.mem_append, List.mem_append]
  rcases resolve?_cases h with h | ⟨-, h | ⟨-, h | h⟩⟩
  · exact .inl (.inr (FieldTable.find?_eq_some_iff.1 h).1)
  · exact .inl (.inl (FieldTable.find?_eq_some_iff.1 h).1)
  · exact .inr (FieldTable.find?_eq_some_iff.1 h).1
  · exact .inl (.inr (mem_aliases_of_resolvePath h))

theorem resolve?_of_mem_aliases {c : Catalog} {f : Field} (hf : f ∈ c.aliases.fields) :
    c.resolve? f.token = some f := by
  unfold resolve?
  rw [FieldTable.find?_eq_some_iff.2 ⟨hf, rfl⟩]
  rfl

/-- A token found in a table is the field's own, and an alias found by its path comes first when
its own token is resolved. -/
theorem resolve?_token {c : Catalog} {token : String} {f : Field}
    (h : c.resolve? token = some f) : c.resolve? f.token = some f := by
  rcases resolve?_cases h with hfound | ⟨-, hfound | ⟨-, hfound | hfound⟩⟩
  · exact resolve?_of_mem_aliases (FieldTable.find?_eq_some_iff.1 hfound).1
  · rwa [(FieldTable.find?_eq_some_iff.1 hfound).2]
  · rwa [(FieldTable.find?_eq_some_iff.1 hfound).2]
  · exact resolve?_of_mem_aliases (mem_aliases_of_resolvePath hfound)

theorem eq_of_resolve?_of_token_eq {c : Catalog} {token other : String} {f g : Field}
    (hf : c.resolve? token = some f) (hg : c.resolve? other = some g) (h : f.token = g.token) :
    f = g := by
  have hsame := resolve?_token hf
  rw [h, resolve?_token hg] at hsame
  exact (Option.some.inj hsame).symm

end Catalog

end InventoryQuery
