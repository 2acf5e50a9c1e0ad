import InventoryQuery.Text.Marks
import InventoryQuery.Text.Printable

/-!
# Quoted text

A text between double quotes in which everything that would not show as itself is escaped: quotes
and backslashes by a backslash, the common controls by their letters, and marks and characters
without a glyph by their code point.
-/

namespace InventoryQuery.Text

def hexDigits (n : Nat) : List Char := Nat.toDigits 16 n

def escapedCodePoint (c : Char) : List Char :=
  ['\\', 'u', '\x7b'] ++ hexDigits c.toNat ++ ['\x7d']

def escapedChar (c : Char) : List Char :=
  if c == '\x00' then ['\\', '0']
  else if c == '\t' then ['\\', 't']
  else if c == '\r' then ['\\', 'r']
  else if c == '\n' then ['\\', 'n']
  else if c == '\\' || c == '\x22' then ['\\', c]
  else if isMark c || !isPrintable c then escapedCodePoint c
  else [c]

def quoted (s : String) : String :=
  String.ofList ('\x22' :: s.toList.flatMap escapedChar ++ ['\x22'])

end InventoryQuery.Text
