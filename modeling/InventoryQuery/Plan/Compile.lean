import InventoryQuery.Catalog.Basic
import InventoryQuery.Plan.Bare
import InventoryQuery.Plan.Lookup
import InventoryQuery.Query.Basic

/-!
# From queries to plans

Names are resolved against a catalog, operators become tests, and literals become stored values.
-/

namespace InventoryQuery

/-- Why a well-formed query does not fit a catalog. -/
inductive PlanFault
  | unknownField (entity token : String)
  | computedField (token : String)
  | invalidOperator (op : Operator) (kind : Kind) (token : String)
  | invalidValue (fault : Fault)
  deriving DecidableEq

namespace PlanFault

def message : PlanFault → String
  | .unknownField entity token => "unknown field '" ++ token ++ "' on '" ++ entity ++ "'"
  | .computedField token => (Fault.computedField token).message
  | .invalidOperator op kind token =>
    "operator '" ++ op.symbol ++ "' is not valid for " ++ kind.name ++ " field '" ++ token ++ "'"
  | .invalidValue fault => fault.message

/-- The name under which faults of this sort are reported. -/
def label : PlanFault → String
  | .unknownField .. => "UnknownField"
  | .computedField _ => "UnsupportedOperation"
  | .invalidOperator .. => "InvalidOperator"
  | .invalidValue _ => "InvalidValue"

end PlanFault

/-- A fault in the meaning of a query and where it is. -/
abbrev PlanError := Located PlanFault

namespace Catalog

def resolve (c : Catalog) (token : Located String) : Except PlanError Field :=
  match c.resolve? token.value with
  | some f => .ok f
  | none => .error ⟨.unknownField c.entity token.value, token.span⟩

end Catalog

/-- What one written condition becomes: a condition, perhaps with another one that may hold in its
place, and the length column that is read. -/
structure Block where
  condition : Condition
  alternative : Option Condition
  length : Option LengthColumn
  deriving DecidableEq

namespace Block

def conditions (b : Block) : List Condition := b.condition :: b.alternative.toList

/-- The connectives between the conditions of the block. -/
def connectives (b : Block) : List Connective := b.alternative.toList.map fun _ ↦ .or

end Block

namespace Plan

/-- The value that a literal stands for in a test of a field.  The word for an open end is a plain
timestamp where it must be the very one stored, and an instant elsewhere. -/
def givenValue (inventory : Inventory) (f : Field) (test : Test) (literal : Located String) :
    Except PlanError Value :=
  let text := literal.value
  if f.kind = .datetime && Text.equalIgnoringAsciiCase text openEndWord then
    .ok (.openEnd (test != .exact))
  else if test = .contains || test = .startsWith then .ok (.text text)
  else
    match f.lookup with
    | some lookup =>
      (lookup.value inventory f.token text).mapError (⟨.invalidValue ·, literal.span⟩)
    | none =>
      (Value.ofLiteral f.kind text).mapError
        fun fault ↦ ⟨.invalidValue (.invalidValue f.token text (.literal fault)), literal.span⟩

/-- A comparison that resolved to a test and a value.  A reference differs from an id when it is
greater or less, and substring and prefix tests read what is shown for the field. -/
def comparison (f : Field) (test : Test) (given : Value) : Block :=
  if f.kind = .reference && test = .notEqual then
    ⟨⟨f, .greater, given⟩, some ⟨f, .less, given⟩, none⟩
  else if test = .contains || test = .startsWith then
    ⟨⟨f.shownField?.getD f, test, given⟩, none, none⟩
  else ⟨⟨f, test, given⟩, none, none⟩

def block (c : Catalog) (inventory : Inventory) (clause : Clause) : Except PlanError Block := do
  let f ← c.resolve clause.field
  if f.isComputed then
    throw ⟨.computedField clause.field.value, clause.field.span⟩
  match clause with
  | .bare _ negated =>
    let bare := f.bare negated
    return ⟨bare.condition, none, bare.length⟩
  | .comparison _ op value =>
    match op.value.test? f.kind with
    | none => throw ⟨.invalidOperator op.value f.kind f.token, op.span⟩
    | some test => return comparison f test (← givenValue inventory f test value)

/-- The connectives of a first block and of blocks that follow it, each after a connective. -/
def blockConnectives (first : Block) (rest : List (Connective × Block)) : List Connective :=
  first.connectives ++ rest.flatMap fun (connective, b) ↦ connective :: b.connectives

/-- The length columns of the blocks, each once. -/
def blockLengths (blocks : List Block) : List LengthColumn :=
  firstsBy id (blocks.filterMap (·.length))

def ofQuery (c : Catalog) (inventory : Inventory) (q : Query) : Except PlanError Plan := do
  let fields ← q.fields.mapM c.resolve
  match q.filter with
  | none => return ⟨fields, [], [], []⟩
  | some filter =>
    let first ← block c inventory filter.first
    let rest ← filter.rest.mapM fun (connective, clause) ↦
      return (connective.value, ← block c inventory clause)
    let blocks := first :: rest.map (·.2)
    return ⟨fields, blocks.flatMap (·.conditions), blockConnectives first rest, blockLengths blocks⟩

end Plan

end InventoryQuery
