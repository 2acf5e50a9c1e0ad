import InventoryQuery.Shell.Command
import InventoryQuery.Shell.History
import InventoryQuery.Shell.Session
import InventoryQuery.Shell.Typed

/-!
# The prompt

What is shown for each line that is entered, and what a line changes: the format of the answers,
or the inventory, which is read again from its file.
-/

namespace InventoryQuery

structure Prompt where
  session : Session
  format : Format
  history : List String
  /-- What is shown before each line. -/
  sign : String

namespace Prompt

/-- Terminals on which lines cannot be edited. -/
def plainTerminals : List String := ["dumb", "cons25", "emacs"]

/-- A plain terminal asks for each line; on others the editing of a line does. -/
def signOn (terminal : Option String) : String :=
  if terminal.any (·.toLower ∈ plainTerminals) then "invql> " else ""

def greeting (p : Prompt) (path : String) : String :=
  "invql - " ++ p.session.scopeText ++ " in scope from " ++ path ++ "\n" ++
    "Type .help for commands, .exit to quit\n\n"

def farewell : String := "Goodbye!\n"

def clearScreen : String := "\x1b[2J\x1b[1;1H"

/-- A text on a line of its own. -/
def line (text : String) : String := text ++ "\n"

/-- The prompt after a command, if there is one, and what is shown.  The file is the one that the
inventory was read from. -/
def obey (p : Prompt) (file : FileText) : Command → Option Prompt × String
  | .exit => (none, farewell)
  | .print text => (some p, line text)
  | .setFormat format =>
    (some { p with format := format }, line ("Output format set to " ++ format.name))
  | .history => (some p, History.text p.history)
  | .clear => (some p, clearScreen)
  | .explain query =>
    match p.session.explain query with
    | .ok plan => (some p, line plan)
    | .error e => (some p, line (e.render query))
  | .fields => (some p, line (Session.fields p.format))
  | .reload =>
    match p.session.reload file with
    | .ok session =>
      (some { p with session := session },
        line (p.format.message (session.scopeText ++ " in scope")))
    | .error fault => (some p, line (p.format.error fault.message))

def ask (p : Prompt) (query : String) : String :=
  match p.session.execute p.format query with
  | .ok "" => ""
  | .ok answer => line answer
  | .error e => line (e.render query)

/-- The prompt after a line as it was typed, if there is one, and what is shown. -/
def enter (p : Prompt) (file : FileText) (input : String) : Option Prompt × String :=
  let text := Text.trimmed (Typed.line input)
  if text = "" then (some p, "")
  else if Command.isCommand text then p.obey file (Command.read text p.format)
  else (some p, p.ask text)

/-- What is shown for lines that are entered one after the other, up to their end. -/
def transcript (p : Prompt) (file : FileText) : List String → String
  | [] => p.sign ++ farewell
  | input :: rest =>
    match p.enter file input with
    | (none, shown) => p.sign ++ shown
    | (some p, shown) => p.sign ++ shown ++ p.transcript file rest

end Prompt

end InventoryQuery
