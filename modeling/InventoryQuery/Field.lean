import InventoryQuery.Kind
import InventoryQuery.Text.Case
import InventoryQuery.Text.Lines

/-!
# Fields

What a query can ask of a record.  A field is stored, on the record itself or on one reached by
following references, or it is computed for each record.
-/

namespace InventoryQuery

/-- A step to another record: the reference held by `key`, followed into `table`. -/
structure Hop where
  key : String
  table : String
  deriving DecidableEq

/-- A function that computes a value for each record.  It goes by a name, and it is told from other
functions by its address. -/
structure Computation where
  name : String
  address : Nat
  deriving DecidableEq

/-- Literals name a record of `table` by its `key`, and the record's id is what is stored. -/
structure NameLookup where
  table : String
  key : String
  deriving DecidableEq

/-- How a stored value is shown. -/
inductive Rendering
  /-- A record of `table` is shown by its `key`. -/
  | name (table key : String)
  /-- The sentinel for an open end is shown as a word. -/
  | openEnd
  deriving DecidableEq

/-- A field is known in queries by its token.  It is stored in `key`, at the end of `path`,
unless it is computed. -/
structure Field where
  token : String
  key : String
  path : List Hop
  label : String
  kind : Kind
  /-- Whether null is a state of its own, so that a bare condition asks for it. -/
  nullable : Bool
  computation : Option Computation
  lookup : Option NameLookup
  rendering : Option Rendering
  deriving DecidableEq

/-- The length of a text field, materialised for the conditions that read it. -/
structure LengthColumn where
  name : String
  source : Field
  deriving DecidableEq

/-- What parts a path from what it leads to, in tokens and in columns. -/
def pathSeparator : String := "__"

namespace Field

/-- A name with its underscores as spaces. -/
def labelOf (name : String) : String :=
  String.ofList (name.toList.map fun c ↦ if c == '_' then ' ' else c)

def stored (name : String) (kind : Kind) : Field where
  token := name
  key := name
  path := []
  label := labelOf name
  kind := kind
  nullable := false
  computation := none
  lookup := none
  rendering := none

def computed (token : String) (kind : Kind) (computation : Computation) : Field :=
  { stored token kind with key := "", nullable := true, computation := some computation }

/-- A stored reference, entered and shown by the name of the record it refers to. -/
def reference (name table key : String) : Field :=
  { stored name .reference with
    lookup := some ⟨table, key⟩
    rendering := some (.name table key) }

def through (f : Field) (key table : String) : Field :=
  { f with path := f.path ++ [⟨key, table⟩] }

def renamed (f : Field) (token : String) : Field := { f with token := token }

def labelled (f : Field) (label : String) : Field := { f with label := label }

def orNull (f : Field) : Field := { f with nullable := true }

def isComputed (f : Field) : Bool := f.computation.isSome

/-! ## Columns -/

def pathName (f : Field) : String := Text.joined pathSeparator (f.path.map (·.key))

/-- Where a condition on the field finds its value in a row. -/
def column (f : Field) : String :=
  if f.isComputed then f.token
  else if f.path.isEmpty then f.key
  else f.pathName ++ pathSeparator ++ f.key

/-- Where the field's values come from, as listings show it. -/
def source (f : Field) : String := if f.isComputed then "computed" else f.column

/-- The heading over the field's values: the label, capitalised unless it has a capital. -/
def header (f : Field) : String :=
  if f.label.toList.any Text.isUppercase then f.label else Text.capitalized f.label

/-! ## Fields made from fields -/

def lengthSuffix : String := "length"

def lengthColumn (f : Field) : LengthColumn :=
  ⟨f.column ++ pathSeparator ++ lengthSuffix, f⟩

/-- The number of characters of a text field as a field that reads its length column. -/
def lengthField (f : Field) : Field :=
  { stored f.lengthColumn.name .numeric with
    token := f.token ++ pathSeparator ++ lengthSuffix
    label := f.label ++ " " ++ lengthSuffix }

/-- The field one hop further on that holds what is shown for this one, if that is a name. -/
def shownField? (f : Field) : Option Field :=
  match f.computation, f.rendering with
  | none, some (.name table key) =>
    some { f with
      key := key
      path := f.path ++ [⟨f.key, table⟩]
      kind := .text
      nullable := true
      lookup := none
      rendering := none }
  | _, _ => none

end Field

end InventoryQuery
