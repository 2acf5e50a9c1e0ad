import InventoryQuery.Number.Binary64

/-!
# Shortest decimals

The fewest decimal digits that read back as a given binary64 number, and of those the digits
nearest to it.  On each decimal grid, from the coarsest on, the two neighbours of the number are
tested against the interval of the reals that round to it.
-/

namespace InventoryQuery.Binary64

open Number (natText twoTo tenTo)

/-- A positive decimal `digits * 10 ^ exponent`. -/
structure Decimal where
  digits : Nat
  exponent : Int
  deriving DecidableEq, Repr

/-- The reals that round to a number: `low / scale` to `high / scale`, with the number itself at
`centre / scale`. -/
structure Rounding where
  low : Nat
  centre : Nat
  high : Nat
  closed : Bool

/-- The scale in which the ends of a rounding interval are integers. -/
def quarter : Nat := twoTo 1076

/-- Half a step to either side, but only a quarter below a power of two, where the steps halve.
The ends round to an even significand. -/
def rounding (significand shift : Nat) : Rounding :=
  let below := if significand == twoTo 52 && shift != 0 then 1 else 2
  { low := (4 * significand - below) * twoTo shift
    centre := 4 * significand * twoTo shift
    high := (4 * significand + 2) * twoTo shift
    closed := significand % 2 == 0 }

/-- Which of two decimals that are equally near is taken. -/
inductive Tie
  | upper
  | even
  deriving DecidableEq

/-- Whether the upper neighbour is taken, given both distances and the lower neighbour. -/
def Tie.takesUpper (tie : Tie) (toUpper toLower lower : Nat) : Bool :=
  if toUpper == toLower then tie == .upper || lower % 2 == 1 else toUpper < toLower

/-- The neighbour of the number on the grid of the multiples of `10 ^ exponent` that reads back as
it, and the nearer one if both do. -/
def onGrid (tie : Tie) (r : Rounding) (exponent : Int) : Option Decimal :=
  let step := quarter * tenTo exponent.toNat
  let refine := tenTo (-exponent).toNat
  let centre := r.centre * refine
  let within (d : Nat) : Bool :=
    if r.closed then r.low * refine ≤ d * step && d * step ≤ r.high * refine
    else r.low * refine < d * step && d * step < r.high * refine
  let lower := centre / step
  let upper := lower + 1
  if within upper && (!within lower ||
      tie.takesUpper (upper * step - centre) (centre - lower * step) lower) then
    some ⟨upper, exponent⟩
  else if within lower then some ⟨lower, exponent⟩
  else none

/-- The exponent of the leading digit of `num / den`. -/
def leadingExponent (num den : Nat) : Int :=
  if den ≤ num then (natText (num / den)).length - 1
  else
    let places := (natText (den / num)).length
    if den ≤ num * tenTo (places - 1) then 1 - places else -places

/-- Seventeen digits always read back, so one of the grids answers. -/
def shortest (tie : Tie) (significand shift : Nat) : Decimal :=
  let r := rounding significand shift
  let top := leadingExponent r.centre quarter
  ((List.range 17).findSome? fun (places : Nat) ↦ onGrid tie r (top - places)).getD ⟨0, 0⟩

/-! ## Digits as text -/

def zeros (count : Int) : List Char := List.replicate count.toNat '0'

/-- The digits without the zeros at their end, and the exponent of the last one left. -/
def significantDigits (d : Decimal) : List Char × Int :=
  let digits := natText d.digits
  let trailing := (digits.reverse.takeWhile (· == '0')).length
  (digits.take (digits.length - trailing), d.exponent + trailing)

/-- The digits with the point in its place and as many zeros as that takes. -/
def positional (digits : List Char) (exponent : Int) : List Char :=
  let point := digits.length + exponent
  if 0 ≤ exponent then digits ++ zeros exponent
  else if 0 < point then digits.take point.toNat ++ '.' :: digits.drop point.toNat
  else '0' :: '.' :: zeros (-point) ++ digits

def withSign (negative : Bool) (text : List Char) : String :=
  String.ofList (if negative then '-' :: text else text)

/-- The shortest decimal, always in positional form and without a point for an integer; a tie goes
to the upper decimal. -/
def toText : Binary64 → String
  | .nan => "NaN"
  | .infinity negative => withSign negative ['i', 'n', 'f']
  | .finite negative 0 _ _ => withSign negative ['0']
  | .finite negative significand shift _ =>
    let (digits, exponent) := significantDigits (shortest .upper significand shift)
    withSign negative (positional digits exponent)

end InventoryQuery.Binary64
