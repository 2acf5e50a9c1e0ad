import InventoryQuery.Text.Lines
import InventoryQuery.Text.Width

/-!
# Grids

Tables drawn with text: every column is as wide as its widest line, with a blank to either side.
A cell may have several lines, and a row that is too short is filled up with empty cells.
-/

namespace InventoryQuery.Grid

/-- The lines of a cell.  A cell without text has one empty line. -/
def cellLines (cell : String) : List String := (Text.cutAt '\n' cell.toList).map String.ofList

def cellWidth (cell : String) : Nat := ((cellLines cell).map Text.width).foldr max 0

def columnCount (rows : List (List String)) : Nat := (rows.map List.length).foldr max 0

def padRow (count : Nat) (row : List String) : List String :=
  row ++ List.replicate (count - row.length) ""

/-- The greatest of both widths for every column. -/
def widest : List Nat → List Nat → List Nat
  | [], widths => widths
  | widths, [] => widths
  | w :: ws, v :: vs => max w v :: widest ws vs

/-- No column is narrower than one character. -/
def columnWidths (rows : List (List String)) : List Nat :=
  (rows.foldr (fun row widths ↦ widest (row.map cellWidth) widths) []).map (max 1)

/-- A line across the grid from the pieces at its ends and at the borders of its columns. -/
def rule (left line crossing right : String) (widths : List Nat) : String :=
  left ++ Text.joined crossing (widths.map fun w ↦ String.join (List.replicate (w + 2) line)) ++
    right

def padCell (width : Nat) (line : String) : String :=
  " " ++ line ++ String.ofList (List.replicate (width - Text.width line) ' ') ++ " "

/-- The lines that a row takes, as many as its highest cell. -/
def rowLines (widths : List Nat) (row : List String) : List String :=
  let cells := row.map cellLines
  let height := (cells.map List.length).foldr max 0
  (List.range height).map fun i ↦
    "|" ++ Text.joined "|" ((widths.zip cells).map fun (w, lines) ↦ padCell w (lines.getD i "")) ++
      "|"

/-- The lines of the rows, with a rule between each and the next. -/
def bodyLines (widths : List Nat) : List (List String) → List String
  | [] => []
  | [row] => rowLines widths row
  | row :: next :: rest =>
    rowLines widths row ++ rule "|" "-" "+" "|" widths :: bodyLines widths (next :: rest)

def render (header : List String) (rows : List (List String)) : String :=
  let count := columnCount (header :: rows)
  let header := padRow count header
  let rows := rows.map (padRow count)
  let widths := columnWidths (header :: rows)
  let border := rule "+" "-" "+" "+" widths
  Text.joined "\n"
    ([border] ++ rowLines widths header ++ [rule "+" "=" "=" "+" widths] ++ bodyLines widths rows ++
      [border])

end InventoryQuery.Grid
