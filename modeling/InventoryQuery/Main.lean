import InventoryQuery.Shell.Invocation

/-!
# The program

The files, the environment and the streams of a run, and nothing else: what is written for them is
decided elsewhere.
-/

namespace InventoryQuery.Main

/-- The number that the system has for an error; some calls report it negated. -/
def errorNumber (code : UInt32) : Nat := (min code (0 - code)).toNat

/-- Why a file could not be read. -/
def faultOf : IO.Error → FileFault
  | .permissionDenied .. => .denied
  | .inappropriateType _ code _ => if errorNumber code = 20 then .notDirectory else .directory
  | .invalidArgument _ code _ => if errorNumber code = 36 then .nameTooLong else .missing
  | _ => .missing

/-- The text of a file, or why there is none. -/
def readFile (path : String) : IO FileText := do
  match ← (IO.FS.readBinFile path).toBaseIO with
  | .ok bytes => return .ofBytes bytes
  | .error e => return .error (faultOf e)

/-- The texts of the files that a run may read. -/
def readFiles (a : Arguments) (home : Option String) : IO (List (String × FileText)) :=
  (a.inventory :: Invocation.historyPath a home :: a.script.toList).mapM fun path ↦
    return (path, ← readFile path)

def report (result : Invocation.Result) : IO UInt32 := do
  IO.print result.output
  IO.eprint result.errors
  return result.code.toUInt32

/-- Enters lines until they end or the prompt does. -/
partial def converse (path : String) (input : IO.FS.Stream) (p : Prompt) : IO Unit := do
  IO.print p.sign
  (← IO.getStdout).flush
  let line ← input.getLine
  if line.isEmpty then
    IO.print Prompt.farewell
  else
    let (next, shown) := p.enter (← readFile path) line
    IO.print shown
    match next with
    | some p => converse path input p
    | none => return

def runProgram (arguments : List String) : IO UInt32 := do
  let values ← Invocation.settings.mapM fun name ↦ return (name, ← IO.getEnv name)
  let environment (name : String) : Option String := (values.lookup name).join
  match Arguments.read arguments (environment Invocation.inventoryVariable) with
  | .error refusal => report (Invocation.refuse refusal)
  | .ok a =>
    let files ← readFiles a (environment Invocation.homeVariable)
    let file (path : String) : FileText := (files.lookup path).getD (.error .missing)
    match Invocation.start a environment file with
    | .finished result => report result
    | .prompt p =>
      IO.print (p.greeting a.inventory)
      converse a.inventory (← IO.getStdin) p
      return 0

end InventoryQuery.Main

def main (arguments : List String) : IO UInt32 := InventoryQuery.Main.runProgram arguments
