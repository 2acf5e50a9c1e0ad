import InventoryQuery.Answer.Basic
import InventoryQuery.Report.Csv
import InventoryQuery.Report.Grid
import InventoryQuery.Value.Json

/-!
# Reports

Answers, messages and listings of fields in the format that the user chose.
-/

namespace InventoryQuery

inductive Format
  | table
  | json
  | csv
  deriving DecidableEq

namespace Format

def all : List Format := [.table, .json, .csv]

def name : Format → String
  | .table => "table"
  | .json => "json"
  | .csv => "csv"

def ofName? (name : String) : Option Format := all.find? (·.name == name)

def noResults : String := "No results"

/-- The text of a cell in a table. -/
def tableCell (v : Value) : String := if v.isNull then "NULL" else v.toText

def countText (n : Nat) : String := String.ofList (Number.natText n)

def rowJson (row : Row) : Json := Json.sortedObject (row.map fun (token, v) ↦ (token, v.toJson))

def answer (format : Format) (a : Answer) : String :=
  match format with
  | .table =>
    if a.rows.isEmpty then noResults
    else
      Grid.render (a.header.map (·.2)) (a.rows.map fun row ↦ row.map (tableCell ·.2)) ++ "\n" ++
        countText a.rows.length ++ " row(s)"
  | .json => (Json.array (a.rows.map rowJson)).pretty
  | .csv =>
    String.join (Csv.record (a.header.map (Csv.escape ·.1)) ::
      a.rows.map fun row ↦ Csv.record (row.map (Csv.cell ·.2)))

def message (format : Format) (text : String) : String :=
  match format with
  | .table | .csv => text
  | .json => (Json.object [("message", .text text)]).compact

def error (format : Format) (text : String) : String :=
  match format with
  | .table => "Error: " ++ text
  | .json => (Json.object [("error", .text text)]).compact
  | .csv => "error," ++ Csv.escape text

def fieldJson (f : Field) : Json :=
  Json.sortedObject
    [("field", .text f.token), ("name", .text f.label), ("kind", .text f.kind.name),
     ("source", .text f.source)]

def fieldCells (f : Field) : List String := [f.token, f.label, f.kind.name, f.source]

def fields (format : Format) (fields : List Field) : String :=
  match format with
  | .table => Grid.render ["Field", "Name", "Kind", "Source"] (fields.map fieldCells)
  | .json => (Json.array (fields.map fieldJson)).pretty
  | .csv =>
    String.join (Csv.record ["field", "name", "kind", "source"] ::
      fields.map fun f ↦ Csv.record ((fieldCells f).map Csv.escape))

end Format

end InventoryQuery
