import InventoryQuery.Answer.Run
import InventoryQuery.Catalog.Hosts
import InventoryQuery.Inventory.Document
import InventoryQuery.Report.Basic

/-!
# Sessions

A loaded inventory and the hosts in it that queries may see.
-/

namespace InventoryQuery

/-- Why a file has no text. -/
inductive FileFault
  | missing
  | denied
  | notDirectory
  | directory
  | nameTooLong
  | notText
  deriving DecidableEq

def FileFault.message : FileFault → String
  | .missing => "No such file or directory (os error 2)"
  | .denied => "Permission denied (os error 13)"
  | .notDirectory => "Not a directory (os error 20)"
  | .directory => "Is a directory (os error 21)"
  | .nameTooLong => "File name too long (os error 36)"
  | .notText => "stream did not contain valid UTF-8"

/-- What reading a file as text gives. -/
abbrev FileText := Except FileFault String

def FileText.ofBytes (bytes : ByteArray) : FileText :=
  match String.fromUTF8? bytes with
  | some text => .ok text
  | none => .error .notText

inductive LoadFault
  | unreadable (fault : FileFault)
  | malformed
  deriving DecidableEq

def LoadFault.message : LoadFault → String
  | .unreadable fault => "failed to load inventory: io error: " ++ fault.message
  | .malformed => "failed to load inventory: invalid inventory: malformed document"

def Inventory.ofFile (file : FileText) : Except LoadFault Inventory :=
  match file with
  | .error fault => .error (.unreadable fault)
  | .ok text =>
    match Inventory.ofDocument? text with
    | some inventory => .ok inventory
    | none => .error .malformed

structure Session where
  options : ScopeOptions
  inventory : Inventory

namespace Session

def load (options : ScopeOptions) (file : FileText) : Except LoadFault Session :=
  (Inventory.ofFile file).map (⟨options, ·⟩)

/-- The session on what the file holds now. -/
def reload (s : Session) (file : FileText) : Except LoadFault Session :=
  (Inventory.ofFile file).map ({ s with inventory := · })

def scope (s : Session) : Scope := .hosts s.inventory s.options

/-- The answer to a query as text; that nothing was found is an answer too. -/
def execute (s : Session) (format : Format) (query : String) : Except QueryError String :=
  match s.scope.run .hosts query with
  | .ok answer => .ok (format.answer answer)
  | .error e => if e.outcome = .empty then .ok (format.message Format.noResults) else .error e

def scopeText (s : Session) : String := Format.countText s.scope.records.length ++ " host(s)"

/-- What a plan does, without doing it. -/
def planText (s : Session) (p : Plan) : String :=
  let fields := Text.joined ", " (p.distinctFields.map (·.token))
  let filter := p.predicate?.elim "none" (·.toText)
  let lengths :=
    match p.lengths with
    | [] => []
    | lengths => ["Derived: " ++ Text.joined ", " (lengths.map (·.name))]
  Text.joined "\n"
    (["Fields: " ++ fields, "Filter: " ++ filter] ++ lengths ++ ["Scope: " ++ s.scopeText])

def explain (s : Session) (query : String) : Except QueryError String :=
  (Plan.ofSource .hosts s.inventory query).map s.planText

/-- The listing of every field that queries may name. -/
def fields (format : Format) : String := format.fields Catalog.hosts.allFields

end Session

end InventoryQuery
