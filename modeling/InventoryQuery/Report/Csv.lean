import InventoryQuery.Text.Lines
import InventoryQuery.Value.Basic

/-!
# Comma-separated records

Records of fields parted by commas, each record ended by a line feed.  Texts of an inventory are
always quoted, so that an empty text is told from null; other fields are quoted where they must be.
-/

namespace InventoryQuery.Csv

/-- A text between quotes, with every quote in it written twice. -/
def quote (s : String) : String :=
  String.ofList ('\x22' :: s.toList.flatMap (fun c ↦ if c == '\x22' then [c, c] else [c]) ++
    ['\x22'])

def needsQuotes (s : String) : Bool :=
  s.toList.any fun c ↦ c == ',' || c == '\x22' || c == '\n'

def escape (s : String) : String := if needsQuotes s then quote s else s

def cell : Value → String
  | .null => ""
  | .text s => quote s
  | v => escape v.toText

def record (fields : List String) : String := Text.joined "," fields ++ "\n"

end InventoryQuery.Csv
