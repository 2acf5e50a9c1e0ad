/-!
# Spans

Places in a source text, as byte offsets into its UTF-8 form.
-/

namespace InventoryQuery

/-- The bytes from `start` up to `stop`. -/
structure Span where
  start : Nat
  stop : Nat
  deriving DecidableEq, Repr

/-- Something with its place in the source. -/
structure Located (α : Type) where
  value : α
  span : Span
  deriving DecidableEq

/-- How many bytes a text takes. -/
def byteCount : List Char → Nat
  | [] => 0
  | c :: rest => c.utf8Size + byteCount rest

namespace Span

/-- The text from a byte offset on, if a character begins there or the text ends there. -/
def dropBytes : Nat → List Char → Option (List Char)
  | 0, text => some text
  | _ + 1, [] => none
  | n + 1, c :: rest => if c.utf8Size ≤ n + 1 then dropBytes (n + 1 - c.utf8Size) rest else none
termination_by _ text => text.length

/-- The text up to a byte offset, if a character ends there. -/
def takeBytes : Nat → List Char → Option (List Char)
  | 0, _ => some []
  | _ + 1, [] => none
  | n + 1, c :: rest =>
    if c.utf8Size ≤ n + 1 then (takeBytes (n + 1 - c.utf8Size) rest).map (c :: ·) else none
termination_by _ text => text.length

/-- The part of a text that a span covers, if the span is one of whole characters. -/
def slice? (text : List Char) (span : Span) : Option (List Char) :=
  if span.start ≤ span.stop then
    (dropBytes span.start text).bind (takeBytes (span.stop - span.start))
  else none

/-- The line and the column of an offset, counted in characters from one, for the text from the
offset `here` on, which is at `line` and `column` itself. -/
def lineColumnFrom (offset here line column : Nat) : List Char → Nat × Nat
  | [] => (line, column)
  | c :: rest =>
    if offset ≤ here then (line, column)
    else if c == '\n' then lineColumnFrom offset (here + c.utf8Size) (line + 1) 1 rest
    else lineColumnFrom offset (here + c.utf8Size) line (column + 1) rest

def lineColumn (text : List Char) (offset : Nat) : Nat × Nat := lineColumnFrom offset 0 1 1 text

end Span

end InventoryQuery
