import InventoryQuery.Inventory.Scope
import InventoryQuery.Report.Basic

/-!
# Command line arguments

Options with and without a value.  They are read from left to right, none may be given twice, and
the first fault or request ends the reading.
-/

namespace InventoryQuery

structure Arguments where
  inventory : String
  command : Option String
  script : Option String
  format : Format
  scope : ScopeOptions
  history : Option String

/-- What else the arguments may ask for. -/
inductive Arguments.Refusal
  | usage
  | help
  | version
  deriving DecidableEq

namespace Arguments

/-- The options that take a value. -/
inductive Setting
  | inventory
  | command
  | file
  | format
  | history
  deriving DecidableEq

inductive Switch
  | includeInactive
  | includeAdministrative
  deriving DecidableEq

def settings : List (String × Setting) :=
  [("inventory", .inventory), ("command", .command), ("file", .file), ("format", .format),
   ("history", .history)]

def shortSettings : List (Char × Setting) := [('i', .inventory), ('c', .command), ('f', .file)]

def switches : List (String × Switch) :=
  [("include-inactive", .includeInactive), ("include-administrative", .includeAdministrative)]

/-- What was given so far. -/
structure Given where
  values : List (Setting × String)
  switches : List Switch

/-- A path is not empty, and a format has a name. -/
def isValid (setting : Setting) (value : String) : Bool :=
  match setting with
  | .command => true
  | .format => (Format.ofName? value).isSome
  | .inventory | .file | .history => value != ""

def Given.set (g : Given) (setting : Setting) (value : String) : Except Refusal Given :=
  if (g.values.lookup setting).isSome || !isValid setting value then .error .usage
  else .ok { g with values := (setting, value) :: g.values }

def Given.switch (g : Given) (s : Switch) : Except Refusal Given :=
  if s ∈ g.switches then .error .usage else .ok { g with switches := s :: g.switches }

/-- Whether an argument is an option and no value: one dash alone is a value. -/
def isOption (argument : List Char) : Bool :=
  match argument with
  | '-' :: _ :: _ => true
  | _ => false

/-- The name of a long option, and the value after an equals sign, if there is one. -/
def splitLong (text : List Char) : String × Option String :=
  let name := String.ofList (text.takeWhile (· != '='))
  match text.dropWhile (· != '=') with
  | [] => (name, none)
  | _ :: value => (name, some (String.ofList value))

/-- A setting that takes its value from the next argument. -/
inductive Pending
  | nothing
  | value (setting : Setting)

/-- What an option asks for that is neither a setting nor a switch. -/
def longRequest (name : String) : Refusal :=
  if name = "help" then .help else if name = "version" then .version else .usage

def shortRequest (name : Char) : Refusal :=
  if name == 'h' then .help else if name == 'V' then .version else .usage

/-- What one argument gives, and whether the next one belongs to it. -/
def readOption (g : Given) (argument : List Char) : Except Refusal (Given × Pending) :=
  match argument with
  | '-' :: '-' :: long =>
    let (name, value) := splitLong long
    match settings.lookup name, switches.lookup name, value with
    | some setting, _, some value => return (← g.set setting value, .nothing)
    | some setting, _, none => return (g, .value setting)
    | none, _, some _ => throw .usage
    | none, some s, none => return (← g.switch s, .nothing)
    | none, none, none => throw (longRequest name)
  | '-' :: c :: attached =>
    match shortSettings.lookup c, attached with
    | none, _ => throw (shortRequest c)
    | some setting, [] => return (g, .value setting)
    | some setting, '=' :: value | some setting, value =>
      return (← g.set setting (String.ofList value), .nothing)
  | _ => throw .usage

/-- Nothing but options is expected, and nothing at all after two dashes. -/
def readAll (g : Given) (pending : Pending) : List String → Except Refusal Given
  | [] =>
    match pending with
    | .nothing => .ok g
    | .value _ => .error .usage
  | argument :: rest =>
    match pending with
    | .value setting =>
      if isOption argument.toList then .error .usage
      else do readAll (← g.set setting argument) .nothing rest
    | .nothing =>
      if argument = "--" then if rest.isEmpty then .ok g else .error .usage
      else do
        let (g, pending) ← readOption g argument.toList
        readAll g pending rest

def defaultInventory : String := "inventory.json"

/-- The arguments, where `inventory` is the file named by the environment. -/
def read (arguments : List String) (inventory : Option String) : Except Refusal Arguments := do
  let given ← readAll ⟨[], []⟩ .nothing arguments
  let value (setting : Setting) : Option String := given.values.lookup setting
  if (value .inventory).isNone && inventory == some "" then throw .usage
  return {
    inventory := ((value .inventory).or inventory).getD defaultInventory
    command := value .command
    script := value .file
    format := ((value .format).bind Format.ofName?).getD .table
    scope := ⟨.includeInactive ∈ given.switches, .includeAdministrative ∈ given.switches⟩
    history := value .history }

end Arguments

end InventoryQuery
