import InventoryQuery.Report.Basic
import InventoryQuery.Text.Blank

/-!
# Commands

Lines at the prompt that start with a dot are commands and not queries.
-/

namespace InventoryQuery

inductive Command
  | exit
  | print (text : String)
  | setFormat (format : Format)
  | history
  | clear
  | explain (query : String)
  | fields
  | reload
  deriving DecidableEq

namespace Command

def isCommand (line : String) : Bool := (Text.trim line.toList).head? == some '.'

def help : String :=
  "REPL Commands\n" ++
  "=============\n" ++
  "\n" ++
  ".fields               List every queryable field\n" ++
  ".explain <query>      Show how a query compiles without running it\n" ++
  ".format [type]        Get or set output format (table, json, csv)\n" ++
  ".reload               Re-read the inventory file\n" ++
  ".history              Show query history\n" ++
  ".clear                Clear the screen\n" ++
  ".help                 Show this help message\n" ++
  ".exit / .quit         Exit the REPL\n" ++
  "\n" ++
  "Query Language\n" ++
  "==============\n" ++
  "<field>[, <field>...] [where <condition> [and|or <condition>...]]\n" ++
  "\n" ++
  "Conditions are evaluated left to right without precedence.\n" ++
  "\n" ++
  "  <field> <op> <value>   op: = == =~ =* != > < >= <=\n" ++
  "  <field>                field is set (non-empty, true, not null)\n" ++
  "  !<field>               field is unset\n" ++
  "\n" ++
  "Examples:\n" ++
  "  fqdn, cpu_model, ram\n" ++
  "  fqdn where cpu_model =~ Intel or !efi\n" ++
  "  fqdn, reserved_by where reserved_until == infinite\n" ++
  "  fqdn where comment =~ \x22GPU box\x22\n"

/-- The name of a command in lower case, and what follows the first blank after it, if anything
does. -/
def split (line : String) : String × Option String :=
  let text := Text.trim line.toList
  let name := Text.lowercase (String.ofList (text.takeWhile (· != ' ')))
  match Text.trim (text.dropWhile (· != ' ')) with
  | [] => (name, none)
  | rest => (name, some (String.ofList rest))

def chooseFormat (name : String) : Command :=
  match Format.ofName? (Text.lowercase name) with
  | some format => .setFormat format
  | none => .print ("Unknown format '" ++ name ++ "'. Use: table, json, csv")

/-- The command that a line is, while answers are shown in a format. -/
def read (line : String) (current : Format) : Command :=
  let (name, rest) := split line
  if name ∈ [".exit", ".quit", ".q"] then .exit
  else if name ∈ [".help", ".h", ".?"] then .print help
  else if name ∈ [".clear", ".cls"] then .clear
  else if name = ".fields" then .fields
  else if name = ".reload" then .reload
  else if name = ".format" then
    rest.elim (.print ("Current format: " ++ current.name)) chooseFormat
  else if name = ".history" then .history
  else if name = ".explain" then rest.elim (.print "Usage: .explain <query>") .explain
  else .print ("Unknown command: " ++ name)

end Command

end InventoryQuery
