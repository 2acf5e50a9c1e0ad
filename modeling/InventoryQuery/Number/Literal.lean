import InventoryQuery.Number.Binary64

/-!
# Number literals

Decimal texts read as 64-bit integers and as binary64 numbers.
-/

namespace InventoryQuery.Number

/-- A text without its leading sign, and whether the sign is a minus. -/
def splitSign : List Char → Bool × List Char
  | '+' :: rest => (false, rest)
  | '-' :: rest => (true, rest)
  | text => (false, text)

/-- An optional sign and at least one digit. -/
def readInteger (text : List Char) : Option Int :=
  let (negative, digits) := splitSign text
  if digits.isEmpty || !digits.all Char.isDigit then none
  else some (signed negative (ofDigits digits))

def toInt64? (i : Int) : Option Int64 :=
  if Int64.minValue.toInt ≤ i && i ≤ Int64.maxValue.toInt then some (Int64.ofInt i) else none

def readInt64 (text : List Char) : Option Int64 := (readInteger text).bind toInt64?

/-- The power of ten after a number's digits: nothing, or `e` and an integer. -/
def readExponent : List Char → Option Int
  | [] => some 0
  | c :: rest => if c == 'e' || c == 'E' then readInteger rest else none

/-- Digits with at most one point among them or at an end, and an exponent. -/
def readUnsigned (negative : Bool) (text : List Char) : Option Binary64 := do
  let whole := text.takeWhile Char.isDigit
  let rest := text.dropWhile Char.isDigit
  let afterPoint :=
    match rest with
    | '.' :: rest => rest
    | _ => []
  let fraction := afterPoint.takeWhile Char.isDigit
  let tail := if rest.head? == some '.' then afterPoint.dropWhile Char.isDigit else rest
  guard (!(whole ++ fraction).isEmpty)
  let exponent ← readExponent tail
  return .ofDecimal negative (ofDigits (whole ++ fraction)) (exponent - fraction.length)

def readBinary64 (text : List Char) : Option Binary64 :=
  let (negative, rest) := splitSign text
  let word := String.ofList (rest.map Char.toLower)
  if word == "inf" || word == "infinity" then some (.infinity negative)
  else if word == "nan" then some .nan
  else readUnsigned negative rest

end InventoryQuery.Number
