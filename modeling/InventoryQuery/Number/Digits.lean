/-!
# Digits

Decimal digits as numbers, and numbers as decimal digits.
-/

namespace InventoryQuery.Number

def digitValue (c : Char) : Nat := c.toNat - '0'.toNat

def ofDigits (digits : List Char) : Nat :=
  digits.foldl (fun value c ↦ 10 * value + digitValue c) 0

def signed (negative : Bool) (magnitude : Nat) : Int :=
  if negative then -(magnitude : Int) else magnitude

/-- The decimal digits of a number, the first one not zero unless it is the only one. -/
def natText (n : Nat) : List Char := Nat.toDigits 10 n

/-- The decimal digits of an integer, after a minus if it is negative. -/
def intText (i : Int) : List Char :=
  if i < 0 then '-' :: natText i.natAbs else natText i.natAbs

/-- The decimal digits of a number with `fill` before them up to a width. -/
def padded (fill : Char) (places n : Nat) : List Char :=
  List.replicate (places - (natText n).length) fill ++ natText n

end InventoryQuery.Number
