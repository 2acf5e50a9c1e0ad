import InventoryQuery.Catalog.Basic
import InventoryQuery.Catalog.Computed

/-!
# The catalog of hosts

The fields of the hosts table, with the names of the records that hosts refer to.
-/

namespace InventoryQuery.Catalog

namespace Hosts

def fields : List Field :=
  [(Field.stored "id" .numeric).labelled "ID",
   .stored "fqdn" .text,
   .stored "cpu_model" .text,
   .stored "cpu_physical" .numeric,
   .stored "cpu_cores" .numeric,
   .stored "cpu_threads" .numeric,
   .stored "ram_amount" .numeric,
   (Field.stored "efi" .boolean).labelled "EFI",
   .stored "active" .boolean,
   .stored "administrative" .boolean,
   .stored "comment" .longText,
   .stored "kernel_options" .text,
   (Field.stored "reserved_reason" .longText).orNull,
   (Field.reference "reserved_by" "users" "username").orNull,
   (Field.stored "reserved_at" .datetime).orNull,
   { (Field.stored "reserved_until" .datetime).orNull with rendering := some .openEnd },
   (Field.stored "last_check" .datetime).orNull,
   (Field.stored "bios_date" .date).orNull,
   .reference "architecture" "architectures" "name",
   .reference "system" "systems" "name",
   (Field.reference "enclosure" "enclosures" "name").orNull]

def aliases : List Field :=
  [((Field.reference "architecture" "architectures" "name").renamed "arch").labelled "Architecture",
   ((Field.stored "ram_amount" .numeric).renamed "ram").labelled "RAM (MB)",
   ((((Field.stored "email" .text).through "reserved_by" "users").renamed
      "reserved_by_email").labelled "Reserved by (email)").orNull,
   (((Field.stored "location_room" .text).through "enclosure" "enclosures").renamed
      "location").labelled "Location",
   (((Field.stored "platform" .text).through "enclosure" "enclosures").renamed
      "platform").labelled "Platform"]

def computed : List Field :=
  [(Field.computed "ipv4" .text .ipv4).labelled "IPv4",
   (Field.computed "ipv6" .text .ipv6).labelled "IPv6",
   (Field.computed "mac" .text .mac).labelled "MAC address",
   .computed "interfaces" .numeric .interfaces]

end Hosts

def hosts : Catalog where
  entity := hostsTable
  fields := .ofList Hosts.fields
  aliases := .ofList Hosts.aliases
  computed := .ofList Hosts.computed

end InventoryQuery.Catalog
