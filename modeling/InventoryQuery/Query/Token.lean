import InventoryQuery.Query.Fault

/-!
# Tokens

A query is cut into words, which are runs of characters other than spaces and quotes, and quoted
texts.  Whether a word is a field, an operator, a connective or a value depends on where it stands.
-/

namespace InventoryQuery

structure Token where
  quoted : Bool
  /-- The text of the token, without its quotes. -/
  text : String
  span : Span
  deriving DecidableEq

namespace Token

def isSpace (c : Char) : Bool := c == ' ' || c == '\t' || c == '\r' || c == '\n'

def isQuote (c : Char) : Bool := c == '\x22' || c == '\x27'

def isWordChar (c : Char) : Bool := !isSpace c && !isQuote c

theorem length_dropWhile_le {α : Type} (p : α → Bool) (list : List α) :
    (list.dropWhile p).length ≤ list.length :=
  (List.dropWhile_suffix p).length_le

/-- The tokens of the text from the offset `here` on.  A quote without a second one like it is an
error that reaches to the end of the text. -/
def scanFrom (here : Nat) (text : List Char) : Except FormError (List Token) :=
  match text with
  | [] => .ok []
  | c :: rest =>
    if isSpace c then scanFrom (here + c.utf8Size) rest
    else if isQuote c then
      let inside := rest.takeWhile (· != c)
      match _h : rest.dropWhile (· != c) with
      | [] => .error ⟨.openQuote, ⟨here, here + byteCount text⟩⟩
      | quote :: after =>
        let stop := here + c.utf8Size + byteCount inside + quote.utf8Size
        (scanFrom stop after).map (⟨true, String.ofList inside, ⟨here, stop⟩⟩ :: ·)
    else
      let word := c :: rest.takeWhile isWordChar
      let stop := here + byteCount word
      (scanFrom stop (rest.dropWhile isWordChar)).map
        (⟨false, String.ofList word, ⟨here, stop⟩⟩ :: ·)
termination_by text.length
decreasing_by
  · simp
  · have := length_dropWhile_le (· != c) rest
    simp_all
    omega
  · have := length_dropWhile_le isWordChar rest
    simp
    omega

def scan (source : String) : Except FormError (List Token) := scanFrom 0 source.toList

/-- The word that the token is; a quoted text is none. -/
def word? (t : Token) : Option String := if t.quoted then none else some t.text

def whereWord : String := "where"

def isWhere (t : Token) : Bool := t.word?.any (Text.equalIgnoringAsciiCase · whereWord)

def connective? (t : Token) : Option Connective := t.word?.bind Connective.ofWord?

def operator? (t : Token) : Option Operator := t.word?.bind Operator.ofSymbol?

end Token

end InventoryQuery
