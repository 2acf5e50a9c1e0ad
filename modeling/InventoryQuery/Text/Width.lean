import InventoryQuery.Text.Columns
import InventoryQuery.Text.Emoji

/-!
# Display width

How many columns a line takes in a terminal with fixed-width cells.  Most characters take the
columns that they take alone.  Some are drawn as one with the characters after them: an emoji with
its skin tone, emoji with a joiner between them, letters that form a ligature.  So a line is read
from its end, and every character is told what follows it.
-/

namespace InventoryQuery.Text

/-! ## What follows a character -/

/-- A variation selector, named for the form that it asks for. -/
inductive Selector
  | emoji
  | text
  | wide
  deriving DecidableEq

/-- The forms that are asked of a character. -/
structure Style where
  emoji : Bool
  text : Bool
  wide : Bool
  deriving DecidableEq

namespace Style

def usual : Style := ⟨false, false, false⟩

def ask (style : Style) : Selector → Style
  | .emoji => { style with emoji := true }
  | .text => { style with text := true }
  | .wide => { style with wide := true }

end Style

/-- What begins after a character, as far as the columns of the character depend on it. -/
inductive Sequel
  | other
  | tone
  | emoji
  | regional
  | regionals
  /-- A joiner, and an emoji after it. -/
  | joinedEmoji
  | joinedKeycap
  | joinedRegional
  | joinedFlags
  | joinedFlagsAndRegional
  /-- The end of the tags of a flag, before a joiner and an emoji. -/
  | tagEnd
  | tagLetters (count : Nat)
  | tagDigits (count : Nat)
  | kiratRaiE
  | kiratRaiAi
  | alef
  | lamed (joined : Bool)
  | buginese (joined : Bool)
  | bugineseVowel
  | tifinagh (joined : Bool)
  | tifinaghJoiner
  | lisuTone
  | orkhonI (joined : Bool)
  | khmer
  deriving DecidableEq

structure Following where
  sequel : Sequel
  style : Style
  deriving DecidableEq

namespace Sequel

/-- Whether a letter begins that may form a ligature with the letter before it. -/
def isLigature : Sequel → Bool
  | .alef | .lamed _ | .buginese _ | .bugineseVowel | .tifinagh _ | .tifinaghJoiner | .lisuTone
  | .orkhonI _ | .khmer => true
  | _ => false

/-- Whether an emoji before this is joined to the one in it. -/
def isJoined : Sequel → Bool
  | .joinedEmoji | .joinedKeycap => true
  | _ => false

/-- What begins with a joiner before a letter. -/
def join : Sequel → Sequel
  | .lamed _ => .lamed true
  | .buginese _ => .buginese true
  | .tifinagh _ => .tifinagh true
  | .orkhonI _ => .orkhonI true
  | sequel => sequel

end Sequel

namespace Following

def start (sequel : Sequel) : Following := ⟨sequel, .usual⟩

/-- Nothing that matters to the character before. -/
def nothing : Following := start .other

/-- What follows a character that is asked to be an emoji and cannot be. -/
def withoutEmoji (f : Following) : Following :=
  if f.sequel.isLigature then { f with style := { f.style with emoji := false } } else nothing

/-- What begins with a variation selector.  A ligature can be formed across selectors, and all of
them count; a sequence of emoji goes on before the one for emoji.  Anything else ends there. -/
def select (f : Following) (selector : Selector) : Following :=
  if f.sequel.isLigature || (selector == .emoji && f.sequel.isJoined) then
    ⟨f.sequel, f.style.ask selector⟩
  else ⟨.other, Style.usual.ask selector⟩

end Following

/-! ## Characters -/

def joiner : Char := '\u200D'

def keycap : Char := '\u20E3'

def selector? (c : Char) : Option Selector :=
  if c == '\uFE01' then some .wide
  else if c == '\uFE0E' then some .text
  else if c == '\uFE0F' then some .emoji
  else none

def isCurlyQuote (c : Char) : Bool :=
  c == '\u2018' || c == '\u2019' || c == '\u201C' || c == '\u201D'

/-- Ignorable marks, which letters of a ligature may have between them. -/
def ignorableMarkRuns : Runs :=
  [(0x34F, 0x34F), (0x17B4, 0x17B5), (0x180B, 0x180D), (0x180F, 0x180F), (0x200D, 0x200D),
   (0xFE00, 0xFE0F), (0xE0100, 0xE01EF)]

def alefRuns : Runs :=
  [(0x622, 0x623), (0x625, 0x625), (0x627, 0x627), (0x671, 0x673), (0x675, 0x675), (0x773, 0x774),
   (0x870, 0x882)]

def lamRuns : Runs :=
  [(0x644, 0x644), (0x6B5, 0x6B8), (0x76A, 0x76A), (0x8A6, 0x8A6), (0x8C7, 0x8C7)]

/-- Khmer letters with a form below the line. -/
def khmerRuns : Runs :=
  [(0x1780, 0x1782), (0x1784, 0x1787), (0x1789, 0x178C), (0x178E, 0x1793), (0x1795, 0x1798),
   (0x179B, 0x179D), (0x17A0, 0x17A0), (0x17A2, 0x17A2), (0x17A7, 0x17A7), (0x17AB, 0x17AC),
   (0x17AF, 0x17AF)]

def tifinaghRuns : Runs := [(0x2D31, 0x2D65), (0x2D6F, 0x2D6F)]

def lisuToneRuns : Runs := [(0xA4F8, 0xA4FB)]

def isTagLetter (c : Char) : Bool := 0xE0061 ≤ c.toNat && c.toNat ≤ 0xE007A

def isTagDigit (c : Char) : Bool := 0xE0030 ≤ c.toNat && c.toNat ≤ 0xE0039

def isTagEnd (c : Char) : Bool := c.toNat == 0xE007F

/-- The flag that tags turn into the flag of a place. -/
def isBlackFlag (c : Char) : Bool := c.toNat == 0x1F3F4

/-- What begins with a character, whatever is after it. -/
def sequelOf (c : Char) : Sequel :=
  let n := c.toNat
  if n < 0x5DC then .other
  else if n == 0x5DC then .lamed false
  else if alefRuns.cover c then .alef
  else if khmerRuns.cover c then .khmer
  else if n == 0x1A10 then .buginese false
  else if tifinaghRuns.cover c then .tifinagh false
  else if n == 0xA4FC || n == 0xA4FD then .lisuTone
  else if n == 0x10C03 then .orkhonI false
  else if n == 0x16D67 then .kiratRaiE
  else if n == 0x16D68 then .kiratRaiAi
  else if isRegional c then .regional
  else if isTone c then .tone
  else if isEmoji c then .emoji
  else .other

/-- A character that nothing after it changes. -/
def alone (c : Char) : Int × Following :=
  match selector? c with
  | some selector => (0, Following.nothing.select selector)
  | none => (columns c, .start (sequelOf c))

/-! ## Characters before others -/

/-- The columns of a character before a ligature, or before the rest of a sequence of emoji, and
what it begins there; none if it takes no part in it. -/
def drawnWith? (sequel : Sequel) (c : Char) : Option (Int × Sequel) :=
  let n := c.toNat
  match sequel with
  | .alef =>
    if lamRuns.cover c then some (0, .other)
    else if isTransparent c then some (0, .alef)
    else none
  | .lamed true => if n == 0x5D0 then some (0, .other) else none
  | .khmer => if n == 0x17D2 then some (-1, .other) else none
  | .buginese true => if n == 0x1A17 then some (0, .bugineseVowel) else none
  | .bugineseVowel => if n == 0x1A15 then some (0, .other) else none
  | .tifinagh joined =>
    if c == visibleJoiner then some (1, .tifinaghJoiner)
    else if joined && tifinaghRuns.cover c then some (0, .other)
    else none
  | .tifinaghJoiner => if tifinaghRuns.cover c then some (-1, .other) else none
  | .lisuTone => if lisuToneRuns.cover c then some (0, .other) else none
  | .orkhonI true => if n == 0x10C32 then some (0, .other) else none
  | .kiratRaiE =>
    if n == 0x16D63 then some (0, .other)
    else if n == 0x16D67 then some (0, .kiratRaiAi)
    else if n == 0x16D68 then some (1, .kiratRaiE)
    else if n == 0x16D69 then some (0, .other)
    else none
  | .kiratRaiAi => if n == 0x16D63 then some (0, .other) else none
  | .tone =>
    if takesTone c then some (0, .emoji) else if c == joiner then some (0, .joinedEmoji) else none
  | .emoji => if c == joiner then some (0, .joinedEmoji) else none
  | .regional => if isRegional c then some (1, .regionals) else none
  | .regionals =>
    if isRegional c then some (1, .regionals)
    else if c == joiner then some (0, .joinedEmoji)
    else none
  | .joinedEmoji =>
    if c == keycap then some (0, .joinedKeycap)
    else if isRegional c then some (1, .joinedRegional)
    else if isTone c then some (0, .tone)
    else if isTagEnd c then some (0, .tagEnd)
    else if isEmoji c then some (0, .emoji)
    else none
  | .joinedRegional => if isRegional c then some (-1, .joinedFlags) else none
  | .joinedFlags =>
    if isRegional c then some (3, .joinedFlagsAndRegional)
    else if c == joiner then some (0, .joinedEmoji)
    else none
  | .joinedFlagsAndRegional =>
    if isRegional c then some (-1, .joinedFlags)
    else if c == joiner then some (0, .joinedEmoji)
    else none
  | .tagEnd =>
    if isTagLetter c then some (0, .tagLetters 1)
    else if isTagDigit c then some (0, .tagDigits 1)
    else none
  | .tagLetters count =>
    if isTagLetter c && count < 6 then some (0, .tagLetters (count + 1))
    else if isTagDigit c && count < 5 then some (0, .tagDigits 1)
    else if isBlackFlag c && 3 ≤ count then some (0, .emoji)
    else none
  | .tagDigits count =>
    if isTagDigit c && count < 3 then some (0, .tagDigits (count + 1))
    else if isBlackFlag c && count == 3 then some (0, .emoji)
    else none
  | _ => none

/-- A character without regard to the forms that are asked of it. -/
def beforeSequel (c : Char) (sequel : Sequel) : Int × Following :=
  if sequel.isLigature && sequel != .alef && c == joiner then (0, .start sequel.join)
  else if sequel.isLigature && sequel != .alef && ignorableMarkRuns.cover c then (0, .start sequel)
  else
    match drawnWith? sequel c with
    | some (columns, sequel) => (columns, .start sequel)
    | none => alone c

/-- The columns of a character before what follows it, and what follows the character before. -/
def before (c : Char) (f : Following) : Int × Following :=
  if f.style.emoji && hasEitherStyle c then
    (if f.sequel.isJoined then 0 else 2, .start .emoji)
  else
    let f := if f.style.emoji then f.withoutEmoji else f
    if c ≤ '\u00A0' then (1, .nothing)
    else if f == .nothing then alone c
    else
      match selector? c with
      | some selector => (0, f.select selector)
      | none =>
        if f.style.text && hasNarrowTextStyle c then (1, .nothing)
        else if f.style.wide && isCurlyQuote c then (2, .nothing)
        else beforeSequel c f.sequel

/-- The columns of a line and what begins with it. -/
def measure : List Char → Int × Following
  | [] => (0, .nothing)
  | c :: rest =>
    let (columns, f) := measure rest
    let (added, f) := before c f
    (columns + added, f)

def widthOf (line : List Char) : Nat := (measure line).1.toNat

def width (s : String) : Nat := widthOf s.toList

end InventoryQuery.Text
