import InventoryQuery.Fault
import InventoryQuery.Field
import InventoryQuery.Inventory.Basic

/-!
# Names of records

Literals that name a record stand for its id, and ids are shown as the names they stand for.
-/

namespace InventoryQuery

/-- The id of the record that a literal for the field `token` names. -/
def NameLookup.value (lookup : NameLookup) (inventory : Inventory) (token text : String) :
    Except Fault Value :=
  match inventory.idOf? lookup.table lookup.key text with
  | some id => .ok (.int id)
  | none => .error (.invalidValue token text (.unknownName lookup.table lookup.key text))

def openEndWord : String := "infinite"

/-- What is shown for a stored value; a value that has no such form is shown as it is. -/
def Rendering.shown (rendering : Rendering) (inventory : Inventory) (v : Value) : Value :=
  match rendering with
  | .name table key =>
    ((v.asInt?.bind (inventory.get? table ·)).bind (·.get? key)).getD v
  | .openEnd => if v.isOpenEnd then .text openEndWord else v

end InventoryQuery
