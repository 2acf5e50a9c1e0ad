import InventoryQuery.Value.Literal

/-!
# Faults

What can go wrong when names and literals are resolved and a query is answered.
-/

namespace InventoryQuery

/-- Why a text does not stand for a value of a field. -/
inductive ValueFault
  | literal (fault : LiteralFault)
  | unknownName (table key name : String)
  deriving DecidableEq

def ValueFault.message : ValueFault → String
  | .literal fault => fault.message
  | .unknownName table key name => "no " ++ table ++ " record with " ++ key ++ " '" ++ name ++ "'"

inductive Fault
  | unknownField (token : String)
  | computedField (token : String)
  | invalidValue (token text : String) (reason : ValueFault)
  | noResults
  deriving DecidableEq

def Fault.message : Fault → String
  | .unknownField token => "unknown field '" ++ token ++ "'"
  | .computedField token =>
    "field '" ++ token ++ "' is computed per record and cannot be used in a condition"
  | .invalidValue token text reason =>
    "invalid value '" ++ text ++ "' for field '" ++ token ++ "': " ++ reason.message
  | .noResults => "no results"

end InventoryQuery
