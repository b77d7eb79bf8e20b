import KeyedRecords.Calendar.Date
import KeyedRecords.Calendar.Span

/-!
Instants of universal time with nanoseconds, leap seconds included, and their written forms. After
any second the nanoseconds may run on into a leap second, but a count of seconds and nanoseconds is
read as an instant only where the clocks have leap seconds: at the end of a minute
(`Instant.ofParts?_self`).
-/

namespace KeyedRecords

/-- An instant: whole seconds since 1970-01-01T00:00:00Z and nanoseconds. Within a leap second,
which has no number of its own, the nanoseconds run on past those of the second before it. -/
structure Instant where
  seconds : Int
  nanos : Nat
  inRange : -8334601228800 ≤ seconds ∧ seconds ≤ 8210266876799
  validNanos : nanos < 2000000000
  deriving DecidableEq

namespace Instant

def isLeap (t : Instant) : Bool := 1000000000 ≤ t.nanos

/-- An instant within a leap second comes after the last second of a minute. -/
def Regular (t : Instant) : Prop := t.isLeap → t.seconds % 60 = 59

instance (t : Instant) : Decidable t.Regular := inferInstanceAs (Decidable (_ → _))

/-- The same time after another second. -/
def withSeconds? (t : Instant) (seconds : Int) : Option Instant :=
  if inRange : -8334601228800 ≤ seconds ∧ seconds ≤ 8210266876799 then
    some { t with seconds, inRange }
  else
    none

/-- The instant of a count of seconds and nanoseconds, which has to be a regular one. -/
def ofParts? (seconds : Int) (nanos : Nat) : Option Instant :=
  if valid : (-8334601228800 ≤ seconds ∧ seconds ≤ 8210266876799) ∧ nanos < 2000000000 then
    let t : Instant := ⟨seconds, nanos, valid.1, valid.2⟩
    if t.Regular then some t else none
  else
    none

/-- The last reading that a clock can show, at the end of the year 262142. -/
def lastMoment : Moment := 8210266876799999999999

def date (t : Instant) : Date := .ofDays (t.seconds / 86400)

def secondOfDay (t : Instant) : Nat := (t.seconds % 86400).toNat

/-- A year outside 0 to 9999 carries its sign. -/
def yearText (year : Int) : String :=
  let digits := Text.paddedDecimal 4 year.natAbs
  if year < 0 then "-" ++ digits else if 9999 < year then "+" ++ digits else digits

def dateText (t : Instant) : String :=
  let d := t.date
  yearText d.year ++ "-" ++ Text.paddedDecimal 2 d.month ++ "-" ++ Text.paddedDecimal 2 d.day

/-- Milliseconds, microseconds or nanoseconds, the first of them that is exact; nothing if there
is no fraction. -/
def fractionText (nanos : Nat) : String :=
  if nanos = 0 then ""
  else if nanos % 1000000 = 0 then "." ++ Text.paddedDecimal 3 (nanos / 1000000)
  else if nanos % 1000 = 0 then "." ++ Text.paddedDecimal 6 (nanos / 1000)
  else "." ++ Text.paddedDecimal 9 nanos

/-- The reading of a clock, which shows 60 within a leap second. -/
def clockText (t : Instant) : String :=
  let s := t.secondOfDay
  Text.paddedDecimal 2 (s / 3600) ++ ":" ++ Text.paddedDecimal 2 (s / 60 % 60) ++ ":" ++
    Text.paddedDecimal 2 (s % 60 + if t.isLeap then 1 else 0) ++
    fractionText (t.nanos % 1000000000)

/-- With a capital T between date and time, and the given mark of universal time. -/
def text (zone : String) (t : Instant) : String :=
  t.dateText ++ "T" ++ t.clockText ++ zone

/-- As a column of a table holds it. -/
def columnText (t : Instant) : String := t.dateText ++ " " ++ t.clockText

end Instant

end KeyedRecords
