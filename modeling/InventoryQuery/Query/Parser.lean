import InventoryQuery.Query.Basic
import InventoryQuery.Query.Token
import InventoryQuery.Text.Blank

/-!
# Reading queries

A query is a list of fields parted by commas, optionally followed by `where` and conditions with
connectives between them.  Faults are reported at the first place where the text leaves this form.
-/

namespace InventoryQuery

namespace Query

/-! ## Fields -/

/-- The field named by a piece of the list that starts at the offset `here`. -/
def readField (here : Nat) (piece : List Char) : Except FormError (Located String) :=
  let name := Text.trim piece
  let start := here + (byteCount piece - byteCount (Text.trimStart piece))
  let span : Span := ⟨start, start + byteCount name⟩
  if name.isEmpty then .error ⟨.emptyField, span⟩
  else if name.any Text.isBlank then .error ⟨.missingComma (String.ofList name), span⟩
  else .ok ⟨String.ofList name, span⟩

/-- The fields named by the pieces of a list, with a comma after each piece. -/
def readPieces (here : Nat) : List (List Char) → Except FormError (List (Located String))
  | [] => .ok []
  | piece :: rest => do
    let field ← readField here piece
    let fields ← readPieces (here + byteCount piece + 1) rest
    return field :: fields

def readFields (text : List Char) : Except FormError (List (Located String)) :=
  if (Text.trim text).isEmpty then .error ⟨.noField, ⟨0, byteCount text⟩⟩
  else readPieces 0 (Text.cutAt ',' text)

/-! ## Conditions -/

/-- A value with every `%20` as a space. -/
def decodeSpaces : List Char → List Char
  | [] => []
  | '%' :: '2' :: '0' :: rest => ' ' :: decodeSpaces rest
  | c :: rest => c :: decodeSpaces rest

def decodeValue (text : String) : String := String.ofList (decodeSpaces text.toList)

/-- A field alone; a word that starts with an exclamation mark is negated. -/
def bareClause (t : Token) : Clause :=
  match t.quoted, t.text.toList with
  | false, '!' :: name => .bare ⟨String.ofList name, ⟨t.span.start + 1, t.span.stop⟩⟩ true
  | _, _ => .bare ⟨t.text, t.span⟩ false

/-- The clause that starts with a token, and the tokens after it. -/
def readClause (field : Token) (rest : List Token) : Except FormError (Clause × List Token) :=
  if field.connective?.isSome then .error ⟨.misplacedConnective field.text, field.span⟩
  else if field.operator?.isSome then .error ⟨.operatorForField field.text, field.span⟩
  else
    match rest with
    | [] => .ok (bareClause field, [])
    | next :: rest =>
      match next.operator?, rest with
      | some _, [] => .error ⟨.missingValue, next.span⟩
      | some op, value :: rest =>
        if value.connective?.isSome then .error ⟨.misplacedConnective value.text, value.span⟩
        else
          .ok (.comparison ⟨field.text, field.span⟩ ⟨op, next.span⟩
            ⟨decodeValue value.text, value.span⟩, rest)
      | none, rest =>
        if next.connective?.isSome then .ok (bareClause field, next :: rest)
        else .error ⟨.missingOperator field.text next.text, next.span⟩

theorem length_readClause {field : Token} {tokens : List Token} {clause : Clause}
    {rest : List Token} (h : readClause field tokens = .ok (clause, rest)) :
    rest.length ≤ tokens.length := by
  unfold readClause at h
  grind

/-- The connectives and clauses after a clause. -/
def readRest (tokens : List Token) : Except FormError (List (Located Connective × Clause)) :=
  match tokens with
  | [] => .ok []
  | word :: rest =>
    match word.connective?, rest with
    | none, _ => .error ⟨.missingConnective word.text, word.span⟩
    | some connective, [] => .error ⟨.danglingConnective connective, word.span⟩
    | some connective, field :: rest =>
      match _h : readClause field rest with
      | .error e => .error e
      | .ok (clause, rest) =>
        (readRest rest).map ((⟨connective, word.span⟩, clause) :: ·)
termination_by tokens.length
decreasing_by
  have := length_readClause _h
  simp
  omega

/-- The filter after the word `where`, which is at a span. -/
def readFilter (span : Span) (tokens : List Token) : Except FormError Filter :=
  match tokens with
  | [] => .error ⟨.noCondition, span⟩
  | field :: rest => do
    let (first, rest) ← readClause field rest
    return ⟨first, ← readRest rest⟩

/-- The query that a source text is. -/
def read (source : String) : Except FormError Query := do
  let text := source.toList
  let span : Span := ⟨0, byteCount text⟩
  let tokens ← Token.scan source
  match tokens.dropWhile (!·.isWhere) with
  | [] => return ⟨← readFields text, none, span⟩
  | first :: rest =>
    if let some second := rest.find? (·.isWhere) then
      throw ⟨.secondWhere, second.span⟩
    let fields ← readFields ((Span.takeBytes first.span.start text).getD [])
    return ⟨fields, some (← readFilter first.span rest), span⟩

end Query

end InventoryQuery
