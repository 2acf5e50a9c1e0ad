import InventoryQuery.Number.Digits
import InventoryQuery.Text.Blank
import InventoryQuery.Text.Lines

/-!
# History

The lines of earlier sessions, kept in a file.  After a first line that names the second version of
the format, line feeds and backslashes within an entry are escaped.
-/

namespace InventoryQuery.History

def versionLine : String := "#V2"

def capacity : Nat := 100

/-- The entries with one more at their end, the oldest dropped when there are too many.  An entry
that is empty, starts with a blank or repeats the last one is not kept. -/
def add (entries : List String) (entry : String) : List String :=
  match entry.toList.head? with
  | none => entries
  | some c =>
    if Text.isBlank c || entries.getLast? == some entry then entries
    else (if entries.length < capacity then entries else entries.drop 1) ++ [entry]

/-- An entry with its escapes undone, unless it has a backslash before anything else. -/
def unescape? : List Char → Option (List Char)
  | [] => some []
  | ['\\'] => none
  | '\\' :: c :: rest =>
    if c == 'n' then (unescape? rest).map ('\n' :: ·)
    else if c == '\\' then (unescape? rest).map ('\\' :: ·)
    else none
  | c :: rest => (unescape? rest).map (c :: ·)

def unescape (line : List Char) : String := String.ofList ((unescape? line).getD line)

/-- The entries that the text of a history file holds. -/
def read (text : String) : List String :=
  match Text.lines text.toList with
  | [] => []
  | first :: rest =>
    if first = versionLine.toList then (rest.map unescape).foldl add []
    else ((first :: rest).map String.ofList).foldl add []

/-- How many entries are shown. -/
def shown : Nat := 20

def entryText (number : Nat) (entry : String) : String :=
  String.ofList (Number.padded ' ' 4 number) ++ "  " ++ entry ++ "\n"

/-- The last entries with their numbers, a line each. -/
def text (entries : List String) : String :=
  let skipped := entries.length - shown
  String.join ((entries.drop skipped).mapIdx fun i entry ↦ entryText (skipped + i + 1) entry)

end InventoryQuery.History
