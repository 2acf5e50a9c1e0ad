import InventoryQuery.Inventory.Basic
import InventoryQuery.Value.Literal

/-!
# Scopes

The part of a table that a caller may see.  A query only ever narrows its scope.
-/

namespace InventoryQuery

structure Scope where
  inventory : Inventory
  table : String
  records : List Record

/-- Which hosts beyond the active and ordinary ones are in scope. -/
structure ScopeOptions where
  includeInactive : Bool
  includeAdministrative : Bool
  deriving DecidableEq

namespace Scope

def filtered (inventory : Inventory) (table : String) (keep : Record → Bool) : Scope :=
  ⟨inventory, table, (inventory.records table).filter keep⟩

def all (inventory : Inventory) (table : String) : Scope := filtered inventory table fun _ ↦ true

end Scope

/-- A true-or-false attribute, with a default for a record that does not tell. -/
def Record.flag (r : Record) (name : String) (default : Bool) : Bool :=
  ((r.get? name).bind fun v ↦ (v.coerce .boolean).asBool?).getD default

def ScopeOptions.admits (options : ScopeOptions) (host : Record) : Bool :=
  (options.includeInactive || host.flag "active" true) &&
    (options.includeAdministrative || !host.flag "administrative" false)

def hostsTable : String := "hosts"

def Scope.hosts (inventory : Inventory) (options : ScopeOptions) : Scope :=
  .filtered inventory hostsTable options.admits

end InventoryQuery
