import InventoryQuery.Json.Basic
import InventoryQuery.Number.Literal

/-!
# JSON tokens

The words of JSON text: punctuation, names, numbers and texts.  A text holds no bare control
character.  It may name half of a surrogate pair without the other half; then it stands for no
string.
-/

namespace InventoryQuery.Json

inductive Token
  | openArray
  | closeArray
  | openObject
  | closeObject
  | comma
  | colon
  | null
  | bool (b : Bool)
  | number (n : Numeral)
  /-- A text, with the string that it stands for. -/
  | text (s : Option String)
  deriving DecidableEq

/-- What is left of a list after something was read from its front. -/
abbrev Tail {α : Type} (list : List α) := { rest : List α // rest.length < list.length }

/-- The tail of a longer list. -/
def Tail.weaken {α : Type} {short long : List α} (tail : Tail short)
    (h : short.length ≤ long.length) : Tail long :=
  ⟨tail.1, Nat.lt_of_lt_of_le tail.2 h⟩

def Tail.after {α : Type} (a : α) (list : List α) : Tail (a :: list) :=
  ⟨list, by simp⟩

/-! ## Texts -/

def hexValue? (c : Char) : Option Nat :=
  if '0' ≤ c && c ≤ '9' then some (c.toNat - '0'.toNat)
  else if 'a' ≤ c && c ≤ 'f' then some (c.toNat - 'a'.toNat + 10)
  else if 'A' ≤ c && c ≤ 'F' then some (c.toNat - 'A'.toNat + 10)
  else none

def hexUnit? (a b c d : Char) : Option Nat := do
  return ((← hexValue? a) * 16 + (← hexValue? b)) * 256 + (← hexValue? c) * 16 + (← hexValue? d)

/-- The character that a letter after a backslash names. -/
def escape? (c : Char) : Option Char :=
  if c == '\x22' || c == '\\' || c == '/' then some c
  else if c == 'b' then some '\x08'
  else if c == 'f' then some '\x0c'
  else if c == 'n' then some '\n'
  else if c == 'r' then some '\r'
  else if c == 't' then some '\t'
  else none

def isHighSurrogate (unit : Nat) : Bool := 0xD800 ≤ unit && unit < 0xDC00

def isLowSurrogate (unit : Nat) : Bool := 0xDC00 ≤ unit && unit < 0xE000

/-- The character that a surrogate pair stands for. -/
def pairedChar (high low : Nat) : Char :=
  Char.ofNat (0x10000 + (high - 0xD800) * 0x400 + (low - 0xDC00))

/-- The character that an escaped unit at the front stands for, and what follows it.  Half of a
surrogate pair without the other half stands for none. -/
def scanUnit (unit : Nat) (input : List Char) :
    Option Char × { rest : List Char // rest.length ≤ input.length } :=
  if isHighSurrogate unit then
    match input with
    | '\\' :: 'u' :: a :: b :: c :: d :: rest =>
      match hexUnit? a b c d with
      | some low =>
        if isLowSurrogate low then (some (pairedChar unit low), ⟨rest, by simp; omega⟩)
        else (none, ⟨_, Nat.le_refl _⟩)
      | none => (none, ⟨_, Nat.le_refl _⟩)
    | input => (none, ⟨input, Nat.le_refl _⟩)
  else if isLowSurrogate unit then (none, ⟨input, Nat.le_refl _⟩)
  else (some (Char.ofNat unit), ⟨input, Nat.le_refl _⟩)

/-- A text with one character more at the front, if both stand for something. -/
def consChar? (c : Option Char) (chars : Option (List Char)) : Option (List Char) :=
  c.bind fun c ↦ chars.map (c :: ·)

/-- The characters up to the closing quote, unless half of a pair is among them, and what follows
the quote. -/
def scanText (input : List Char) : Option (Option (List Char) × Tail input) :=
  match input with
  | [] => none
  | '\\' :: 'u' :: a :: b :: c :: d :: rest =>
    match hexUnit? a b c d with
    | none => none
    | some unit =>
      let (c?, more) := scanUnit unit rest
      (scanText more.1).map fun (chars, tail) ↦
        (consChar? c? chars, tail.weaken (by have := more.2; simp; omega))
  | '\\' :: e :: rest =>
    match escape? e with
    | none => none
    | some c =>
      (scanText rest).map fun (chars, tail) ↦
        (consChar? (some c) chars, tail.weaken (by simp; omega))
  | c :: rest =>
    if c == '\x22' then some (some [], Tail.after c rest)
    else if c == '\\' || c.toNat < 0x20 then none
    else
      (scanText rest).map fun (chars, tail) ↦
        (consChar? (some c) chars, tail.weaken (by simp))
termination_by input.length
decreasing_by
  · have := more.2; simp; omega
  · simp only [List.length_cons]; omega
  · simp

/-! ## Numbers -/

/-- The digits at the front of the input. -/
def scanDigits :
    (input : List Char) → List Char × { rest : List Char // rest.length ≤ input.length }
  | [] => ([], ⟨[], Nat.le_refl _⟩)
  | c :: rest =>
    if c.isDigit then
      let (digits, tail) := scanDigits rest
      (c :: digits, ⟨tail.1, Nat.le_succ_of_le tail.2⟩)
    else ([], ⟨c :: rest, Nat.le_refl _⟩)

/-- A point and the digits after it, if there is a point. -/
def scanFraction (input : List Char) :
    Option (List Char × { rest : List Char // rest.length ≤ input.length }) :=
  match input with
  | '.' :: rest =>
    match scanDigits rest with
    | ([], _) => none
    | (digits, tail) => some (digits, ⟨tail.1, Nat.le_succ_of_le tail.2⟩)
  | input => some ([], ⟨input, Nat.le_refl _⟩)

/-- The sign of an exponent, which may be left out. -/
def scanSign : (input : List Char) → Bool × { rest : List Char // rest.length ≤ input.length }
  | '+' :: rest => (false, ⟨rest, Nat.le_succ _⟩)
  | '-' :: rest => (true, ⟨rest, Nat.le_succ _⟩)
  | input => (false, ⟨input, Nat.le_refl _⟩)

/-- A power of ten, if there is one. -/
def scanExponent (input : List Char) :
    Option (Option Int × { rest : List Char // rest.length ≤ input.length }) :=
  match input with
  | c :: rest =>
    if c == 'e' || c == 'E' then
      let (negative, unsigned) := scanSign rest
      match scanDigits unsigned.1 with
      | ([], _) => none
      | (digits, tail) =>
        some (some (Number.signed negative (Number.ofDigits digits)),
          ⟨tail.1, Nat.le_trans tail.2 (Nat.le_succ_of_le unsigned.2)⟩)
    else some (none, ⟨c :: rest, Nat.le_refl _⟩)
  | [] => some (none, ⟨[], Nat.le_refl _⟩)

/-- A number whose sign was read.  It starts with a digit, and a zero is its only whole digit. -/
def scanUnsigned (negative : Bool) (input : List Char) : Option (Numeral × Tail input) :=
  match input with
  | [] => none
  | c :: rest =>
    if !c.isDigit then none
    else
      let (more, afterWhole) := scanDigits rest
      if c == '0' && !more.isEmpty then none
      else do
        let (fraction, afterFraction) ← scanFraction afterWhole.1
        let (exponent, tail) ← scanExponent afterFraction.1
        return (⟨negative, c :: more, fraction, exponent⟩,
          ⟨tail.1, Nat.lt_succ_of_le
            (Nat.le_trans tail.2 (Nat.le_trans afterFraction.2 afterWhole.2))⟩)

/-! ## Tokens -/

def isSpace (c : Char) : Bool := c == ' ' || c == '\t' || c == '\n' || c == '\r'

/-- The token at the front of an input that starts with no space. -/
def scanToken : (input : List Char) → Option (Token × Tail input)
  | [] => none
  | '[' :: rest => some (.openArray, .after _ rest)
  | ']' :: rest => some (.closeArray, .after _ rest)
  | '\x7b' :: rest => some (.openObject, .after _ rest)
  | '\x7d' :: rest => some (.closeObject, .after _ rest)
  | ',' :: rest => some (.comma, .after _ rest)
  | ':' :: rest => some (.colon, .after _ rest)
  | '\x22' :: rest =>
    (scanText rest).map fun (chars, tail) ↦
      (.text (chars.map String.ofList), tail.weaken (by simp))
  | '-' :: rest =>
    (scanUnsigned true rest).map fun (n, tail) ↦ (.number n, tail.weaken (by simp))
  | 'n' :: 'u' :: 'l' :: 'l' :: rest => some (.null, ⟨rest, by simp; omega⟩)
  | 't' :: 'r' :: 'u' :: 'e' :: rest => some (.bool true, ⟨rest, by simp; omega⟩)
  | 'f' :: 'a' :: 'l' :: 's' :: 'e' :: rest => some (.bool false, ⟨rest, by simp; omega⟩)
  | input => (scanUnsigned false input).map fun (n, tail) ↦ (.number n, tail)

def tokens (input : List Char) : Option (List Token) :=
  match input with
  | [] => some []
  | c :: rest =>
    if isSpace c then tokens rest
    else
      match scanToken (c :: rest) with
      | none => none
      | some (token, tail) => (tokens tail.1).map (token :: ·)
termination_by input.length
decreasing_by
  · simp
  · exact tail.2

end InventoryQuery.Json
