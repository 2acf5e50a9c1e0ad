import InventoryQuery.Json.Basic

/-!
# Written JSON

JSON text on one line, or with one member or element to a line and two blanks for each level.
-/

namespace InventoryQuery.Json

def hexDigit (n : Nat) : Char := Nat.digitChar (n % 16)

def escapedChar (c : Char) : List Char :=
  if c == '\x22' || c == '\\' then ['\\', c]
  else if c == '\x08' then ['\\', 'b']
  else if c == '\x0c' then ['\\', 'f']
  else if c == '\n' then ['\\', 'n']
  else if c == '\r' then ['\\', 'r']
  else if c == '\t' then ['\\', 't']
  else if c.toNat < 0x20 then ['\\', 'u', '0', '0', hexDigit (c.toNat / 16), hexDigit c.toNat]
  else [c]

def quoted (s : String) : String :=
  String.ofList ('\x22' :: s.toList.flatMap escapedChar ++ ['\x22'])

/-- A power of ten is written with its sign. -/
def Numeral.toText (n : Numeral) : String :=
  let fraction := if n.fraction.isEmpty then [] else '.' :: n.fraction
  let exponent :=
    match n.exponent with
    | none => []
    | some e => 'e' :: (if e < 0 then '-' else '+') :: Number.natText e.natAbs
  String.ofList ((if n.negative then ['-'] else []) ++ n.whole ++ fraction ++ exponent)

mutual

def compact : Json → String
  | .null => "null"
  | .bool b => if b then "true" else "false"
  | .number n => n.toText
  | .text s => quoted s
  | .array [] => "[]"
  | .array (first :: rest) => "[" ++ compact first ++ compactRest rest ++ "]"
  | .object [] => "\x7b\x7d"
  | .object ((name, value) :: rest) =>
    "\x7b" ++ quoted name ++ ":" ++ compact value ++ compactMembers rest ++ "\x7d"

def compactRest : List Json → String
  | [] => ""
  | value :: rest => "," ++ compact value ++ compactRest rest

def compactMembers : List (String × Json) → String
  | [] => ""
  | (name, value) :: rest => "," ++ quoted name ++ ":" ++ compact value ++ compactMembers rest

end

def newline (level : Nat) : String := String.ofList ('\n' :: List.replicate (2 * level) ' ')

mutual

/-- The text of a value inside `level` others. -/
def prettyAt (level : Nat) : Json → String
  | .null => "null"
  | .bool b => if b then "true" else "false"
  | .number n => n.toText
  | .text s => quoted s
  | .array [] => "[]"
  | .array (first :: rest) =>
    "[" ++ newline (level + 1) ++ prettyAt (level + 1) first ++ prettyRest (level + 1) rest ++
      newline level ++ "]"
  | .object [] => "\x7b\x7d"
  | .object ((name, value) :: rest) =>
    "\x7b" ++ newline (level + 1) ++ quoted name ++ ": " ++ prettyAt (level + 1) value ++
      prettyMembers (level + 1) rest ++ newline level ++ "\x7d"

def prettyRest (level : Nat) : List Json → String
  | [] => ""
  | value :: rest => "," ++ newline level ++ prettyAt level value ++ prettyRest level rest

def prettyMembers (level : Nat) : List (String × Json) → String
  | [] => ""
  | (name, value) :: rest =>
    "," ++ newline level ++ quoted name ++ ": " ++ prettyAt level value ++ prettyMembers level rest

end

def pretty (j : Json) : String := prettyAt 0 j

end InventoryQuery.Json
