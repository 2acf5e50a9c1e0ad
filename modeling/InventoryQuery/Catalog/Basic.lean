import InventoryQuery.Field
import InventoryQuery.Text.Words

/-!
# Catalogs

Which fields there are for one table.  Fields are kept in three tables in the order of their
tokens, each token once: aliases, which come first when a token is resolved, stored fields, and
computed fields.  A field behind a reference also goes by the name of its path.
-/

namespace InventoryQuery

/-- Fields in the order of their tokens, each token once. -/
structure FieldTable where
  fields : List Field
  sorted : fields.Pairwise (·.token < ·.token)

namespace FieldTable

def empty : FieldTable := ⟨[], .nil⟩

/-- The fields with one put in its place, instead of any with the same token. -/
def place (f : Field) : List Field → List Field
  | [] => [f]
  | g :: rest =>
    if f.token < g.token then f :: g :: rest
    else if g.token < f.token then g :: place f rest
    else f :: rest

theorem mem_place {f g : Field} {fields : List Field} (h : g ∈ place f fields) :
    g = f ∨ g ∈ fields := by
  induction fields with
  | nil => simpa [place] using h
  | cons head rest ih => grind [place]

theorem sorted_place {f : Field} {fields : List Field}
    (h : fields.Pairwise (·.token < ·.token)) : (place f fields).Pairwise (·.token < ·.token) := by
  induction fields with
  | nil => simp [place]
  | cons head rest ih =>
    obtain ⟨below, rest_sorted⟩ := List.pairwise_cons.1 h
    rw [place]
    split
    · next before =>
      refine List.pairwise_cons.2 ⟨fun g hg ↦ ?_, h⟩
      rcases List.mem_cons.1 hg with rfl | hg
      · exact before
      · exact String.lt_trans before (below g hg)
    · split
      · next after =>
        refine List.pairwise_cons.2 ⟨fun g hg ↦ ?_, ih rest_sorted⟩
        rcases mem_place hg with rfl | hg
        · exact after
        · exact below g hg
      · next notBefore notAfter =>
        have same : f.token = head.token := String.le_antisymm notAfter notBefore
        exact List.pairwise_cons.2 ⟨fun g hg ↦ same ▸ below g hg, rest_sorted⟩

def insert (table : FieldTable) (f : Field) : FieldTable :=
  ⟨place f table.fields, sorted_place table.sorted⟩

def ofList (fields : List Field) : FieldTable := fields.foldl insert empty

def find? (table : FieldTable) (token : String) : Option Field :=
  table.fields.find? (·.token == token)

def tokens (table : FieldTable) : List String := table.fields.map (·.token)

end FieldTable

/-- The fields of the table named `entity`. -/
structure Catalog where
  entity : String
  fields : FieldTable
  aliases : FieldTable
  computed : FieldTable

namespace Catalog

def empty (entity : String) : Catalog := ⟨entity, .empty, .empty, .empty⟩

def withField (c : Catalog) (f : Field) : Catalog := { c with fields := c.fields.insert f }

def withAlias (c : Catalog) (f : Field) : Catalog := { c with aliases := c.aliases.insert f }

def withComputed (c : Catalog) (f : Field) : Catalog := { c with computed := c.computed.insert f }

/-! ## Resolving tokens -/

/-- The texts before and after the last separator. -/
def splitPath : List Char → Option (List Char × List Char)
  | [] => none
  | c :: rest =>
    match splitPath rest with
    | some (before, after) => some (c :: before, after)
    | none =>
      match c, rest with
      | '_', '_' :: after => some ([], after)
      | _, _ => none

/-- The first alias that a path and a key lead to. -/
def resolvePath (c : Catalog) (token : String) : Option Field := do
  let (path, key) ← splitPath token.toList
  c.aliases.fields.find? fun f ↦
    !f.path.isEmpty && f.pathName == String.ofList path && f.key == String.ofList key

def resolve? (c : Catalog) (token : String) : Option Field :=
  ((c.aliases.find? token).or (c.fields.find? token)).or
    ((c.computed.find? token).or (c.resolvePath token))

/-! ## Listings -/

/-- Every field: the stored ones, the aliases and the computed ones. -/
def allFields (c : Catalog) : List Field := c.fields.fields ++ c.aliases.fields ++ c.computed.fields

/-- Every token, in order. -/
def tokens (c : Catalog) : List String := Text.sortedWords (c.allFields.map (·.token))

end Catalog

end InventoryQuery
