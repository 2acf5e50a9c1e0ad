import InventoryQuery.Calendar.Timestamp
import InventoryQuery.Number.Literal
import InventoryQuery.Text.Blank

/-!
# Date and timestamp literals

The texts that read as dates, timestamps and zoned timestamps.  A plain part may have blanks
before it and leave out its leading zero; the parts of a zoned timestamp have fixed widths.
-/

namespace InventoryQuery.Calendar

/-- Reads something from the front of a text. -/
abbrev Reader := StateT (List Char) Option

namespace Reader

/-- From `least` to `most` decimal digits, as many as there are. -/
def digits (least most : Nat) : Reader Nat := fun text ↦
  let taken := (text.take most).takeWhile Char.isDigit
  if taken.length < least then none
  else some (Number.ofDigits taken, text.drop taken.length)

def char (c : Char) : Reader Unit := fun text ↦
  match text with
  | [] => none
  | d :: rest => if d == c then some ((), rest) else none

def blanks : Reader Unit := fun text ↦ some ((), Text.trimStart text)

/-- A part of one or two digits, with blanks before it. -/
def part : Reader Nat := do
  blanks
  digits 1 2

/-- Up to four digits, or any number of them after a sign. -/
def year : Reader Int := do
  blanks
  let text ← get
  match Number.splitSign text with
  | (negative, rest) =>
    if rest.length < text.length then
      set rest
      return Number.signed negative (← digits 1 rest.length)
    else return (← digits 1 4 : Nat)

def date : Reader Date := do
  let year ← year
  char '-'
  let month ← part
  char '-'
  let day ← part
  (Date.of? year month day : Option Date)

/-- Nothing, or a point and at least one digit; digits after the ninth are dropped. -/
def nanos : Reader Nat := do
  if (← get).head? == some '.' then
    char '.'
    let text ← get
    let taken := text.takeWhile Char.isDigit
    guard (!taken.isEmpty)
    set (text.drop taken.length)
    let kept := taken.take 9
    return Number.ofDigits kept * Number.tenTo (9 - kept.length)
  else return 0

/-- A time of day from its parts, with second sixty as a leap second. -/
def clock (hour minute second nanos : Nat) (date : Date) : Option Timestamp := do
  guard (hour < 24 && minute < 60 && second ≤ 60)
  let start := 3600 * hour + 60 * minute
  if second == 60 then Timestamp.of? date (start + 59) (Timestamp.second + nanos)
  else Timestamp.of? date (start + second) nanos

/-- A date and a time of day after what `separator` reads, with or without seconds. -/
def timestamp (separator : Reader Unit) (withSeconds : Bool) : Reader Timestamp := do
  let date ← date
  separator
  let hour ← part
  char ':'
  let minute ← part
  if withSeconds then
    char ':'
    let second ← part
    let nanos ← nanos
    (clock hour minute second nanos date : Option Timestamp)
  else (clock hour minute 0 0 date : Option Timestamp)

/-- `Z`, or a sign, two digits of hours and two of minutes; the result is in seconds. -/
def offset : Reader Int := do
  match ← get with
  | c :: rest =>
    set rest
    if c == 'Z' || c == 'z' then return 0
    guard (c == '+' || c == '-' || c == '\u2212')
    let hours ← digits 2 2
    char ':'
    let minutes ← digits 2 2
    guard (hours < 24 && minutes < 60)
    return Number.signed (c != '+') (3600 * hours + 60 * minutes)
  | [] => failure

/-- A timestamp with its zone, moved to the universal one. -/
def instant : Reader Timestamp := do
  let year ← digits 4 4
  char '-'
  let month ← digits 2 2
  char '-'
  let day ← digits 2 2
  match ← get with
  | c :: rest =>
    guard (c == 'T' || c == 't' || c == ' ')
    set rest
  | [] => failure
  let hour ← digits 2 2
  char ':'
  let minute ← digits 2 2
  char ':'
  let second ← digits 2 2
  let nanos ← nanos
  let offset ← offset
  let date ← (Date.of? year month day : Option Date)
  let timestamp ← (clock hour minute second nanos date : Option Timestamp)
  (timestamp.behind? offset : Option Timestamp)

/-- What a reader makes of a whole text. -/
def whole {α : Type} (reader : Reader α) (text : List Char) : Option α :=
  match reader text with
  | some (result, []) => some result
  | _ => none

end Reader

def readDate (text : List Char) : Option Date := Reader.date.whole text

def readInstant (text : List Char) : Option Timestamp := Reader.instant.whole text

/-- The plain forms of a timestamp, in the order in which they are tried. -/
def timestampForms : List (Reader Timestamp) :=
  [.timestamp (.char 'T') true, .timestamp .blanks true,
   .timestamp (.char 'T') false, .timestamp .blanks false]

/-- A date alone stands for its midnight. -/
def readTimestamp (text : List Char) : Option Timestamp :=
  match timestampForms.findSome? (·.whole text) with
  | some timestamp => some timestamp
  | none => (readDate text).map .midnight

end InventoryQuery.Calendar
