/-!
# Runs of code points

Sets of characters as lists of runs, each a first and a last code point.
-/

namespace InventoryQuery.Text

abbrev Runs := List (Nat × Nat)

def Runs.cover (runs : Runs) (c : Char) : Bool :=
  runs.any fun (first, last) ↦ first ≤ c.toNat && c.toNat ≤ last

end InventoryQuery.Text
