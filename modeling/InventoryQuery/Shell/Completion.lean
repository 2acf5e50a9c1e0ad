import InventoryQuery.Catalog.Basic
import InventoryQuery.Plan.Lookup
import InventoryQuery.Query.Token
import InventoryQuery.Text.Blank

/-!
# Completion

The words that may go on from what was typed at the prompt: commands at the start of a line, and
otherwise fields, operators and the words of the language.
-/

namespace InventoryQuery.Completion

def languageWords : List String := [Token.whereWord, "and", "or", openEndWord]

/-- Every word that is offered, in order. -/
def vocabulary (c : Catalog) : List String :=
  Text.sortedWords (c.tokens ++ Operator.all.map (·.symbol) ++ languageWords)

def commands : List String :=
  [".fields", ".explain", ".format", ".reload", ".history", ".clear", ".help", ".exit", ".quit"]

/-- What a word starts after: a blank, a comma or an exclamation mark. -/
def partsWords (c : Char) : Bool := Text.isBlank c || c == ',' || c == '!'

/-- The last word of a text, which may be empty. -/
def lastWord (text : List Char) : List Char :=
  (text.reverse.takeWhile (!partsWords ·)).reverse

/-- A line is taken for a command up to its first space. -/
def startsCommand (text : List Char) : Bool :=
  (Text.trimStart text).head? == some '.' && !text.contains ' '

/-- Where the last word of a text is taken to start: a byte after the start of the last mark. -/
def wordStart (text : List Char) : Nat :=
  match text.reverse.dropWhile (!partsWords ·) with
  | [] => 0
  | _ :: before => byteCount before.reverse + 1

/-- Where the completed word starts, and the words that it may become, for the text before the
cursor. -/
def candidates (vocabulary : List String) (text : List Char) : Nat × List String :=
  if startsCommand text then
    (0, commands.filter fun command ↦ (Text.trim text).isPrefixOf command.toList)
  else
    match Text.lower (lastWord text) with
    | [] => (wordStart text, [])
    | typed => (wordStart text, vocabulary.filter fun w ↦ typed.isPrefixOf (Text.lower w.toList))

/-- The candidates for a cursor at an offset of a line.  There is no answer if the offset is inside
a character, or if the last word is taken to start inside one: a mark may have more than a byte. -/
def candidatesAt? (vocabulary : List String) (line : List Char) (offset : Nat) :
    Option (Nat × List String) := do
  let text ← Span.takeBytes offset line
  if startsCommand text || (Span.dropBytes (wordStart text) text).isSome then
    some (candidates vocabulary text)
  else none

end InventoryQuery.Completion
