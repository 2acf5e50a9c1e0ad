import InventoryQuery.Number.Digits
import InventoryQuery.Number.Power

/-!
# Binary64 numbers

The numbers of the binary64 interchange format as exact data.  Every finite one is an integer
multiple of the least positive one, `2 ^ (-1074)`, so finite numbers are compared and rounded in
integer arithmetic.  Rounding is to the nearest number, and a tie goes to the even significand.
-/

namespace InventoryQuery

open Number (natText signed twoTo tenTo)

/-- The forms that finite numbers take: 53 significant bits, or fewer at the least scale. -/
def Binary64.IsCanonical (significand shift : Nat) : Prop :=
  significand < twoTo 53 ∧ shift ≤ 2045 ∧ (twoTo 52 ≤ significand ∨ shift = 0)

instance (significand shift : Nat) : Decidable (Binary64.IsCanonical significand shift) :=
  inferInstanceAs (Decidable (_ ∧ _ ∧ _))

/-- A finite number stands for `± significand * 2 ^ shift` multiples of `2 ^ (-1074)`. -/
inductive Binary64
  | nan
  | infinity (negative : Bool)
  | finite (negative : Bool) (significand shift : Nat)
      (canonical : Binary64.IsCanonical significand shift)
  deriving DecidableEq

namespace Binary64

/-! ## Order -/

/-- Where a number stands, counted in multiples of `2 ^ (-1074)`.  The infinities stand just
beyond the finite numbers, and what is not a number stands nowhere. -/
def position : Binary64 → Option Int
  | .nan => none
  | .infinity negative => some (signed negative (twoTo 53 * twoTo 2045))
  | .finite negative significand shift _ => some (signed negative (significand * twoTo shift))

def compare (x y : Binary64) : Option Ordering := do
  return Ord.compare (← x.position) (← y.position)

/-! ## Rounding -/

/-- The integer nearest to `num / den`; a tie goes to the even one. -/
def roundQuotient (num den : Nat) : Nat :=
  let quotient := num / den
  let twice := 2 * (num % den)
  if twice < den || (twice == den && quotient % 2 == 0) then quotient else quotient + 1

/-- How far the significand of a number is shifted whose size is `multiples` of the least one. -/
def shiftFor (multiples : Nat) : Nat := Nat.log2 multiples - 52

/-- The number of a form, infinite where the form is beyond the format. -/
def ofForm (negative : Bool) (significand shift : Nat) : Binary64 :=
  if h : IsCanonical significand shift then .finite negative significand shift h
  else .infinity negative

/-- The number nearest to `± num / den`, infinite from half a step beyond the greatest on. -/
def ofRatio (negative : Bool) (num den : Nat) : Binary64 :=
  let scaled := num * twoTo 1074
  let shift := shiftFor (scaled / den)
  let significand := roundQuotient scaled (den * twoTo shift)
  if significand == twoTo 53 then ofForm negative (twoTo 52) (shift + 1)
  else ofForm negative significand shift

def ofInt (i : Int) : Binary64 := ofRatio (i < 0) i.natAbs 1

/-- The number nearest to `± digits * 10 ^ exponent`.  Sizes far outside the format's range are
decided without computing the power. -/
def ofDecimal (negative : Bool) (digits : Nat) (exponent : Int) : Binary64 :=
  let size := (natText digits).length + exponent
  if digits == 0 || size < -330 then ofRatio negative 0 1
  else if 310 < size then .infinity negative
  else if 0 ≤ exponent then ofRatio negative (digits * tenTo exponent.toNat) 1
  else ofRatio negative digits (tenTo (-exponent).toNat)

end Binary64

end InventoryQuery
