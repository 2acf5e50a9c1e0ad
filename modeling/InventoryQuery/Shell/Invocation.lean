import InventoryQuery.Shell.Arguments
import InventoryQuery.Shell.Prompt

/-!
# Invocations

One run of the program: a single query, a script of queries, or a prompt.
-/

namespace InventoryQuery

/-- What a run writes and how it ends. -/
structure Invocation.Result where
  code : Nat
  output : String
  errors : String
  deriving DecidableEq

namespace Invocation

def succeed (output : String) : Result := ⟨0, output, ""⟩

def fail (message : String) : Result := ⟨1, "", message ++ "\n"⟩

def versionText : String := "invql 0.1.0\n"

def helpText : String :=
  "Query a machine inventory\n\n" ++
  "Usage: invql [OPTIONS]\n\n" ++
  "Options:\n" ++
  "  -i, --inventory <INVENTORY>   JSON inventory file\n" ++
  "  -c, --command <COMMAND>       Execute a single query and exit\n" ++
  "  -f, --file <FILE>             Execute queries from file\n" ++
  "      --format <FORMAT>         Output format: table, json or csv\n" ++
  "      --include-inactive        Include hosts that are not active\n" ++
  "      --include-administrative  Include administrative hosts\n" ++
  "      --history <HISTORY>       REPL history file\n" ++
  "  -h, --help                    Print help\n" ++
  "  -V, --version                 Print version\n"

def refuse : Arguments.Refusal → Result
  | .usage => ⟨2, "", "error: unexpected or invalid argument\n"⟩
  | .help => succeed helpText
  | .version => succeed versionText

/-- The variable that names the inventory file when no argument does. -/
def inventoryVariable : String := "INVQL_INVENTORY"

def homeVariable : String := "HOME"

/-- The variable that names the kind of the terminal. -/
def terminalVariable : String := "TERM"

/-- The variables that a run may read. -/
def settings : List String := [inventoryVariable, homeVariable, terminalVariable]

/-- The file that the history is kept in: the one given, or one in the home directory. -/
def historyPath (a : Arguments) (home : Option String) : String :=
  a.history.getD (home.getD "." ++ "/.invql_history")

/-! ## Single queries and scripts -/

def answerQuery (s : Session) (format : Format) (query : String) : Result :=
  match s.execute format query with
  | .ok answer => succeed (answer ++ "\n")
  | .error e => fail (e.render query)

/-- The queries of a script: its lines, without blank ones and comments. -/
def queries (script : String) : List String :=
  ((Text.lines script.toList).map Text.trim).filterMap fun line ↦
    if line.isEmpty || ['/', '/'].isPrefixOf line || line.head? == some '#' then none
    else some (String.ofList line)

/-- What a query of a script writes; the script goes on after an error. -/
def answerScripted (s : Session) (format : Format) (query : String) : Result :=
  match s.execute format query with
  | .ok "" => succeed ""
  | .ok answer => succeed (answer ++ "\n")
  | .error e => ⟨0, "", "Error executing '" ++ query ++ "': " ++ e.render query ++ "\n"⟩

def answerScript (s : Session) (format : Format) (script : FileText) : Result :=
  match script with
  | .error fault => fail ("Error: " ++ fault.message)
  | .ok script =>
    let results := (queries script).map (answerScripted s format)
    ⟨0, String.join (results.map (·.output)), String.join (results.map (·.errors))⟩

/-! ## Whole runs -/

/-- What a run comes to before a line is entered: its end, or a prompt. -/
inductive Start
  | finished (result : Result)
  | prompt (p : Prompt)

/-- A file of an earlier session that cannot be read leaves no history. -/
def startHistory (history : FileText) : List String :=
  match history with
  | .ok text => History.read text
  | .error _ => []

/-- The start of a run whose arguments were understood. -/
def start (a : Arguments) (environment : String → Option String) (file : String → FileText) :
    Start :=
  match Session.load a.scope (file a.inventory) with
  | .error fault => .finished (fail ("Error: " ++ fault.message))
  | .ok session =>
    match a.command, a.script with
    | some query, _ => .finished (answerQuery session a.format query)
    | none, some script => .finished (answerScript session a.format (file script))
    | none, none =>
      let history := startHistory (file (historyPath a (environment homeVariable)))
      .prompt ⟨session, a.format, history, Prompt.signOn (environment terminalVariable)⟩

def runWith (a : Arguments) (environment : String → Option String) (file : String → FileText)
    (input : String) : Result :=
  match start a environment file with
  | .finished result => result
  | .prompt p =>
    let lines := (Text.lines input.toList).map String.ofList
    succeed (p.greeting a.inventory ++ p.transcript (file a.inventory) lines)

/-- The run of the program over files that do not change, with its whole input. -/
def run (arguments : List String) (environment : String → Option String)
    (file : String → FileText) (input : String) : Result :=
  match Arguments.read arguments (environment inventoryVariable) with
  | .error refusal => refuse refusal
  | .ok a => runWith a environment file input

end Invocation

end InventoryQuery
