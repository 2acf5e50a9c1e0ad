/-!
# Powers

The powers of two that numbers are stored with, and the powers of ten that they are written with.
-/

namespace InventoryQuery.Number

def twoTo (exponent : Nat) : Nat := Nat.pow 2 exponent

def tenTo (exponent : Nat) : Nat := Nat.pow 10 exponent

end InventoryQuery.Number
