import InventoryQuery.Number.Literal

/-!
# Scaled numbers

A quick way of reading a decimal: as many leading digits as fit in 64 bits are kept and rounded,
and the result is multiplied or divided by a rounded power of ten.  It may miss the nearest number
by a little where `Binary64.ofDecimal` does not.
-/

namespace InventoryQuery.Number

/-- The multiple of `2 ^ (-1074)` that the size of a finite number is. -/
def units : Binary64 → Nat
  | .finite _ significand shift _ => significand * twoTo shift
  | _ => 0

def unitsOfOne : Nat := twoTo 1074

/-- The number nearest to a power of ten. -/
def roundedTenTo (exponent : Nat) : Nat := units (.ofDecimal false 1 exponent)

def times (negative : Bool) (size exponent : Nat) : Binary64 :=
  .ofRatio negative (size * roundedTenTo exponent) (unitsOfOne * unitsOfOne)

def dividedBy (negative : Bool) (size exponent : Nat) : Binary64 :=
  .ofRatio negative size (roundedTenTo exponent)

/-- The number `± significand * 10 ^ exponent` with a rounding after each step, unless it is out of
range.  Powers of ten beyond the format are divided by in two steps. -/
def scaled? (negative : Bool) (significand : Nat) (exponent : Int) : Option Binary64 :=
  let start := units (.ofInt significand)
  if start == 0 || exponent < -616 then some (.ofRatio negative 0 1)
  else if exponent < -308 then
    some (dividedBy negative (units (dividedBy false start 308)) (-exponent - 308).toNat)
  else if exponent < 0 then some (dividedBy negative start (-exponent).toNat)
  else if 308 < exponent then none
  else
    match times negative start exponent.toNat with
    | .infinity _ => none
    | x => some x

/-- A number followed by digits while it fits in 64 bits, and the digits that are left. -/
def takeFitting (value : Nat) : List Char → Nat × List Char
  | [] => (value, [])
  | c :: rest =>
    let next := 10 * value + digitValue c
    if next < twoTo 64 then takeFitting next rest else (value, c :: rest)

/-- The number with the given digits before and after its point, times a power of ten. -/
def ofParts? (negative : Bool) (whole fraction : List Char) (exponent : Int) : Option Binary64 :=
  let (value, droppedWhole) := takeFitting 0 whole
  let (value, droppedFraction) := takeFitting value fraction
  let kept := fraction.length - droppedFraction.length
  scaled? negative value (exponent + droppedWhole.length - kept)

end InventoryQuery.Number
