import InventoryQuery.Json.Printer
import InventoryQuery.Value.Basic

/-!
# Values as JSON

Dates and times are written as texts, and a floating number by its shortest decimal, in a form that
reads as no integer.  A floating number that is not finite has no JSON form and is null.
-/

namespace InventoryQuery

namespace Binary64

/-- The shortest decimal as a JSON number: without a power of ten while the leading digit counts
from `10 ^ (-5)` to `10 ^ 15`, and with one digit before the point outside.  A tie goes to the even
digit. -/
def numeral? : Binary64 → Option Json.Numeral
  | .nan | .infinity _ => none
  | .finite negative 0 _ _ => some ⟨negative, ['0'], ['0'], none⟩
  | .finite negative significand shift _ =>
    let (digits, exponent) := significantDigits (shortest .even significand shift)
    let point := digits.length + exponent
    if point < -4 || 16 < point then
      some ⟨negative, digits.take 1, digits.drop 1, some (point - 1)⟩
    else if 0 ≤ exponent then some ⟨negative, digits ++ zeros exponent, ['0'], none⟩
    else if 0 < point then
      some ⟨negative, digits.take point.toNat, digits.drop point.toNat, none⟩
    else some ⟨negative, ['0'], zeros (-point) ++ digits, none⟩

end Binary64

def Value.toJson : Value → Json
  | .null => .null
  | .bool b => .bool b
  | .int i => .ofInt i.toInt
  | .float x => x.numeral?.elim .null .number
  | .text s => .text s
  | .date d => .text (String.ofList d.toText)
  | .timestamp t => .text (String.ofList t.toIsoText)
  | .instant t => .text (String.ofList (t.toIsoText ++ ['Z']))

end InventoryQuery
