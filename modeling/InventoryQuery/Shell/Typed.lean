import InventoryQuery.Query.Span
import InventoryQuery.Text.Cluster

/-!
# Typed lines

A line may hold backspaces.  Each takes back what was typed last and is still there: a whole
cluster, since that is what its writer sees as one character.
-/

namespace InventoryQuery

/-- What was typed and is still there: the characters and the sizes of their clusters, both with
the last one first. -/
structure Typed where
  characters : List Char
  sizes : List Nat

namespace Typed

def nothing : Typed := ⟨[], []⟩

def backspace : List Char := ['\x08']

/-- Sizes are counted in bytes and kept in one byte each. -/
def size (cluster : List Char) : Nat := byteCount cluster % 256

/-- The characters without so many bytes at the front. -/
def dropBytes : Nat → List Char → List Char
  | 0, characters => characters
  | _ + 1, [] => []
  | count + 1, c :: rest => dropBytes (count + 1 - c.utf8Size) rest

def press (t : Typed) (cluster : List Char) : Typed :=
  if cluster = backspace then
    match t.sizes with
    | [] => t
    | size :: sizes => ⟨dropBytes size t.characters, sizes⟩
  else ⟨cluster.reverse ++ t.characters, size cluster :: t.sizes⟩

/-- What a line comes to. -/
def line (input : String) : String :=
  let typed := (Text.clusters input.toList).foldl press nothing
  String.ofList typed.characters.reverse

end Typed

end InventoryQuery
