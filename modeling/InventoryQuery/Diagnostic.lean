import InventoryQuery.Number.Digits
import InventoryQuery.Query.Span
import InventoryQuery.Text.Lines

/-!
# Diagnostics

Faults as they are shown to the writer of a query: what is wrong, the line with a mark under the
place, and what could be done.
-/

namespace InventoryQuery

structure Diagnostic where
  label : String
  message : String
  span : Span
  hint : Option String

namespace Diagnostic

def number (n : Nat) : String := String.ofList (Number.natText n)

/-- The number of a shown line, in three places. -/
def lineNumber (n : Nat) : String := String.ofList (Number.padded ' ' 3 n)

/-- A caret below the first character of a span and a tilde below each further one on the line. -/
def underline (text line : List Char) (column : Nat) (span : Span) : List Char :=
  let room := line.length + 1 - min column (line.length + 1)
  let covered := ((Span.slice? text ⟨span.start, min span.stop (byteCount text)⟩).getD []).length
  List.replicate column ' ' ++ '^' :: List.replicate (min covered room - 1) '~'

/-- Where a span starts, and the line that it starts on. -/
def excerpt (source : String) (span : Span) : String :=
  let text := source.toList
  let (line, column) := Span.lineColumn text span.start
  let place := "  --> line " ++ number line ++ ":" ++ number column ++ "\n"
  match (Text.lines text)[line - 1]? with
  | none => place
  | some shown =>
    place ++ "   |\n" ++ lineNumber line ++ "| " ++ String.ofList shown ++ "\n   |" ++
      String.ofList (underline text shown column span) ++ "\n"

def render (d : Diagnostic) (source : String) : String :=
  let hint :=
    match d.hint with
    | none => ""
    | some hint => "   = hint: " ++ hint ++ "\n"
  d.label ++ ": " ++ d.message ++ "\n" ++ excerpt source d.span ++ hint

end Diagnostic

end InventoryQuery
