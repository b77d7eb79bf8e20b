/-!
Dates of the Gregorian calendar, extended to all years, and their distance in days from
1970-01-01.
-/

namespace KeyedRecords

structure Date where
  year : Int
  month : Nat
  day : Nat
  deriving DecidableEq

namespace Date

def isLeapYear (year : Int) : Bool :=
  year % 4 == 0 && (year % 100 != 0 || year % 400 == 0)

def daysInMonth (year : Int) (month : Nat) : Nat :=
  match month with
  | 2 => if isLeapYear year then 29 else 28
  | 4 | 6 | 9 | 11 => 30
  | _ => 31

def of? (year : Int) (month day : Nat) : Option Date :=
  if 1 ≤ month ∧ month ≤ 12 ∧ 1 ≤ day ∧ day ≤ daysInMonth year month then
    some ⟨year, month, day⟩
  else
    none

/-! Years are taken to begin in March, so that a leap day is the last day of its year, and are
counted within cycles of 400 years, that is 146097 days. Day 0 of cycle 0 is 0000-03-01. -/

/-- Days from the first of March to the first of the month `monthOfYear` months later. -/
def daysBeforeMonth (monthOfYear : Nat) : Nat := (153 * monthOfYear + 2) / 5

def toDays (d : Date) : Int :=
  let year := if d.month ≤ 2 then d.year - 1 else d.year
  let yearOfCycle := (year % 400).toNat
  let dayOfYear := daysBeforeMonth ((d.month + 9) % 12) + (d.day - 1)
  let dayOfCycle := 365 * yearOfCycle + yearOfCycle / 4 - yearOfCycle / 100 + dayOfYear
  year / 400 * 146097 + dayOfCycle - 719468

def ofDays (days : Int) : Date :=
  let n := days + 719468
  let dayOfCycle := (n % 146097).toNat
  let yearOfCycle :=
    (dayOfCycle - dayOfCycle / 1460 + dayOfCycle / 36524 - dayOfCycle / 146096) / 365
  let dayOfYear := dayOfCycle - (365 * yearOfCycle + yearOfCycle / 4 - yearOfCycle / 100)
  let monthOfYear := (5 * dayOfYear + 2) / 153
  let month := if monthOfYear < 10 then monthOfYear + 3 else monthOfYear - 9
  let year := n / 146097 * 400 + yearOfCycle
  ⟨if month ≤ 2 then year + 1 else year, month, dayOfYear - daysBeforeMonth monthOfYear + 1⟩

/-- The weekday, Sunday being 0. -/
def weekday (days : Int) : Nat := ((days + 4) % 7).toNat

/-- The last Sunday of a month of 31 days. -/
def lastSunday (year : Int) (month : Nat) : Int :=
  let last := (Date.mk year month 31).toDays
  last - weekday last

end Date

end KeyedRecords
