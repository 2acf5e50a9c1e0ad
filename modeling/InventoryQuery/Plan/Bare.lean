import InventoryQuery.Plan.Basic

/-!
# Bare conditions

What a field alone asks for: a presence where null is a state of its own, truth of a flag, and at
least one character of a text, which is read from a length column.
-/

namespace InventoryQuery

/-- A condition and the length column that it reads, if it reads one. -/
structure BareCondition where
  condition : Condition
  length : Option LengthColumn
  deriving DecidableEq

namespace Field

def presence (f : Field) (negated : Bool) : BareCondition := ⟨⟨f, .isNull, .bool negated⟩, none⟩

def bare (f : Field) (negated : Bool) : BareCondition :=
  if f.nullable then f.presence negated
  else
    match f.kind with
    | .boolean => ⟨⟨f, .exact, .bool !negated⟩, none⟩
    | .text | .longText =>
      ⟨⟨f.lengthField, if negated then .exact else .greater, .int 0⟩, some f.lengthColumn⟩
    | .reference | .date | .datetime | .numeric => f.presence negated

end Field

end InventoryQuery
