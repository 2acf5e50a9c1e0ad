import InventoryQuery.Predicate.Basic
import InventoryQuery.Query.Operator
import InventoryQuery.Query.Span

/-!
# Malformed queries

What can be wrong with the form of a query, in the words that its writer reads.
-/

namespace InventoryQuery

inductive FormFault
  | openQuote
  | secondWhere
  | noField
  | emptyField
  | missingComma (name : String)
  | noCondition
  | misplacedConnective (word : String)
  | missingConnective (found : String)
  | operatorForField (symbol : String)
  | missingOperator (field found : String)
  | missingValue
  | danglingConnective (connective : Connective)
  deriving DecidableEq

namespace FormFault

def message : FormFault → String
  | .openQuote => "unterminated quoted value"
  | .secondWhere => "more than one 'where' in query"
  | .noField => "expected at least one field"
  | .emptyField => "empty field name in field list"
  | .missingComma name => "expected ',' between fields in '" ++ name ++ "'"
  | .noCondition => "'where' must be followed by at least one condition"
  | .misplacedConnective word => "unexpected '" ++ word ++ "'"
  | .missingConnective found => "expected AND or OR, found '" ++ found ++ "'"
  | .operatorForField symbol => "expected a field, found operator '" ++ symbol ++ "'"
  | .missingOperator field found =>
    "expected an operator after '" ++ field ++ "', found '" ++ found ++ "'"
  | .missingValue => "incomplete condition: missing value"
  | .danglingConnective connective => "dangling '" ++ connective.word ++ "' at end of query"

def hint? : FormFault → Option String
  | .openQuote => some "close the quote or encode spaces as %20"
  | .secondWhere => some "combine conditions with AND or OR"
  | .noField => some "start the query with a field list such as 'fqdn, arch'"
  | .missingComma _ => some "separate requested fields with commas"
  | .misplacedConnective _ => some "AND and OR go between complete conditions"
  | .missingOperator .. => some ("valid operators are " ++ Operator.symbols)
  | .missingValue => some "quote values containing spaces, or encode them as %20"
  | .emptyField | .noCondition | .missingConnective _ | .operatorForField _
  | .danglingConnective _ => none

end FormFault

/-- A fault in the form of a query and where it is. -/
abbrev FormError := Located FormFault

end InventoryQuery
