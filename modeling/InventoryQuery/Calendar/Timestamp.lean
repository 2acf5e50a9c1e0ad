import InventoryQuery.Calendar.Date

/-!
# Timestamps

A day and a time of day to the nanosecond, without a zone.  A minute may end with a leap second,
which is counted as the part of its last second that goes beyond one.
-/

namespace InventoryQuery

namespace Timestamp

def second : Nat := 1000000000

def IsTime (seconds nanos : Nat) : Prop :=
  seconds < 86400 ∧ (nanos < second ∨ nanos < 2 * second ∧ seconds % 60 = 59)

instance (seconds nanos : Nat) : Decidable (IsTime seconds nanos) :=
  inferInstanceAs (Decidable (_ ∧ (_ ∨ _ ∧ _)))

end Timestamp

/-- The time of day is the number of whole seconds since midnight and the nanoseconds after. -/
structure Timestamp where
  date : Date
  seconds : Nat
  nanos : Nat
  time : Timestamp.IsTime seconds nanos
  deriving DecidableEq

namespace Timestamp

def of? (date : Date) (seconds nanos : Nat) : Option Timestamp :=
  if h : IsTime seconds nanos then some ⟨date, seconds, nanos, h⟩ else none

def midnight (date : Date) : Timestamp := ⟨date, 0, 0, by decide⟩

def compare (a b : Timestamp) : Ordering :=
  (a.date.compare b.date).then
    ((Ord.compare a.seconds b.seconds).then (Ord.compare a.nanos b.nanos))

/-- The largest timestamp an inventory stores, which stands for an open end. -/
def openEnd : Timestamp := ⟨⟨9999, 12, 31, by decide⟩, 86399, 999999000, by decide⟩

/-- The same instant read on a clock that is `offset` seconds behind, for offsets under a day. -/
def behind? (t : Timestamp) (offset : Int) : Option Timestamp :=
  let seconds := (t.seconds : Int) - offset
  if seconds < 0 then t.date.previous?.bind (of? · (seconds + 86400).toNat t.nanos)
  else if seconds < 86400 then of? t.date seconds.toNat t.nanos
  else t.date.next?.bind (of? · (seconds - 86400).toNat t.nanos)

/-! ## Written forms -/

/-- Hours, minutes and seconds; a leap second is written as second sixty. -/
def clockText (t : Timestamp) : List Char :=
  Date.padded 2 (t.seconds / 3600) ++ ':' :: Date.padded 2 (t.seconds / 60 % 60) ++
    ':' :: Date.padded 2 (t.seconds % 60 + t.nanos / second)

/-- The form shown to people, to the second. -/
def toText (t : Timestamp) : List Char := t.date.toText ++ ' ' :: t.clockText

/-- The fraction of a second in the fewest groups of three digits that hold it. -/
def fractionText (t : Timestamp) : List Char :=
  let nanos := t.nanos % second
  if nanos == 0 then []
  else if nanos % 1000000 == 0 then '.' :: Date.padded 3 (nanos / 1000000)
  else if nanos % 1000 == 0 then '.' :: Date.padded 6 (nanos / 1000)
  else '.' :: Date.padded 9 nanos

/-- The form for interchange, which loses nothing. -/
def toIsoText (t : Timestamp) : List Char :=
  t.date.toText ++ 'T' :: t.clockText ++ t.fractionText

end Timestamp

end InventoryQuery
