import InventoryQuery.Field
import InventoryQuery.Inventory.Scope

/-!
# Computed fields

A catalog may have fields that are computed by any functions.  The ones for hosts are computed from
the network interfaces that refer to a host.  Addresses are those of the primary interface, or of
the first one if none is marked as primary.
-/

namespace InventoryQuery

/-- The functions that there are: what the one at an address makes of the id of a record. -/
class Functions where
  call (address : Nat) (inventory : Inventory) (id : Int64) : Value

def Computation.value [Functions] (computation : Computation) (inventory : Inventory)
    (id : Int64) : Value := Functions.call computation.address inventory id

/-! ## Hosts -/

def interfacesTable : String := "network_interfaces"

namespace Inventory

/-- The interfaces of a host, in stored order. -/
def interfacesOf (inventory : Inventory) (host : Int64) : List Record :=
  inventory.referring interfacesTable "host" host

def primaryInterface? (inventory : Inventory) (host : Int64) : Option Record :=
  let interfaces := inventory.interfacesOf host
  (interfaces.find? (·.flag "primary" false)).or interfaces.head?

/-- An attribute of the primary interface, or null. -/
def primaryAddress (inventory : Inventory) (host : Int64) (key : String) : Value :=
  ((inventory.primaryInterface? host).bind (·.get? key)).getD .null

end Inventory

namespace Computation

def ipv4 : Computation := ⟨"ipv4", 0⟩

def ipv6 : Computation := ⟨"ipv6", 1⟩

def mac : Computation := ⟨"mac", 2⟩

def interfaces : Computation := ⟨"interfaces", 3⟩

def all : List Computation := [ipv4, ipv6, mac, interfaces]

def ofName? (name : String) : Option Computation := all.find? (·.name == name)

end Computation

instance hostFunctions : Functions where
  call address inventory host :=
    match address with
    | 0 => inventory.primaryAddress host "ipv4_address"
    | 1 => inventory.primaryAddress host "ipv6_address"
    | 2 => inventory.primaryAddress host "mac_address"
    | 3 => .int (Int64.ofNat (inventory.interfacesOf host).length)
    | _ => .null

end InventoryQuery
