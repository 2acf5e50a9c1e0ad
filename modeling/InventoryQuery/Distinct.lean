/-!
# First occurrences

The elements of a list without those whose key an element before them has.
-/

namespace InventoryQuery

def firstsAfter {α β : Type} [DecidableEq β] (key : α → β) (seen : List β) : List α → List α
  | [] => []
  | a :: rest =>
    if key a ∈ seen then firstsAfter key seen rest
    else a :: firstsAfter key (key a :: seen) rest

def firstsBy {α β : Type} [DecidableEq β] (key : α → β) (list : List α) : List α :=
  firstsAfter key [] list

end InventoryQuery
