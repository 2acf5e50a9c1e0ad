/-!
# Lines

The lines of a text: each ends at a line feed, which with a carriage return before it is left
out; a last line without a line feed counts when it is not empty.
-/

namespace InventoryQuery.Text

/-- The text cut at every occurrence of `mark`; a text without one is a single piece. -/
def cutAt (mark : Char) : List Char → List (List Char)
  | [] => [[]]
  | c :: rest =>
    if c == mark then [] :: cutAt mark rest
    else
      match cutAt mark rest with
      | [] => [[c]]
      | piece :: pieces => (c :: piece) :: pieces

/-- A line without the carriage return that belongs to its line feed. -/
def dropCarriageReturn (line : List Char) : List Char :=
  if line.getLast? == some '\r' then line.dropLast else line

/-- Each piece but the last was ended by a line feed. -/
def linesOfPieces : List (List Char) → List (List Char)
  | [] => []
  | [last] => if last.isEmpty then [] else [last]
  | line :: next :: rest => dropCarriageReturn line :: linesOfPieces (next :: rest)

def lines (text : List Char) : List (List Char) := linesOfPieces (cutAt '\n' text)

def joined (separator : String) : List String → String
  | [] => ""
  | [s] => s
  | s :: t :: rest => s ++ separator ++ joined separator (t :: rest)

end InventoryQuery.Text
