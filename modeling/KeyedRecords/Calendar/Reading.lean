import KeyedRecords.Calendar.Instant
import KeyedRecords.Number.Power
import KeyedRecords.Text.Blank

/-!
Texts read as a date and a time of day. The offset from universal time that may follow is checked
and then dropped: what counts is the reading of the local clock.

A text is read in a strict form, in which every field has its full width, or else in a loose one,
in which a field may have fewer digits and white space before it.
-/

namespace KeyedRecords.Reading

open Text

/-- A reader of the front of a text: what it found and what is left. -/
abbrev Reader (α : Type) := List Char → Option (α × List Char)

def char (c : Char) : Reader Unit
  | [] => none
  | d :: rest => if d = c then some ((), rest) else none

def skipBlanks (cs : List Char) : List Char := cs.dropWhile isBlank

/-- Takes as many digits as there are, up to `most`; fails on fewer than `least`. -/
def digits (least : Nat) (most : Option Nat) : Reader (List Char) := fun cs =>
  let run := cs.takeWhile isDigit
  let taken := match most with
    | some n => run.take n
    | none => run
  if taken.length < least then none else some (taken, cs.drop taken.length)

def number (least : Nat) (most : Option Nat) : Reader Nat := fun cs => do
  let (ds, rest) ← digits least most cs
  some (digitsValue ds, rest)

/-- Nine digits count; more are passed over. -/
def fraction : Reader Nat
  | '.' :: cs => do
    let (ds, rest) ← digits 1 (some 9) cs
    some (digitsValue ds * tenPow (9 - ds.length), rest.dropWhile isDigit)
  | cs => some (0, cs)

/-- A date, the time of day in seconds, and the nanoseconds; those of a leap second start at
1000000000. -/
structure LocalTime where
  date : Date
  second : Nat
  nanos : Nat

def LocalTime.of? (date : Date) (hour minute second nanos : Nat) : Option LocalTime :=
  if hour < 24 ∧ minute < 60 ∧ second ≤ 60 then
    if second = 60 then some ⟨date, hour * 3600 + minute * 60 + 59, nanos + 1000000000⟩
    else some ⟨date, hour * 3600 + minute * 60 + second, nanos⟩
  else
    none

/-- The instant at which a clock of universal time shows the reading. -/
def LocalTime.instant? (t : LocalTime) : Option Instant :=
  Instant.ofParts? (t.date.toDays * 86400 + t.second) t.nanos

def sign : Reader Bool
  | '+' :: rest => some (false, rest)
  | c :: rest => if c = '-' ∨ c.toNat = 0x2212 then some (true, rest) else none
  | [] => none

/-- Hours and minutes after a sign, `between` being what may stand between them. -/
def offset (between : List Char → Option (List Char)) : Reader Nat := fun cs => do
  let (_, cs) ← sign cs
  let (hours, cs) ← number 2 (some 2) cs
  let (minutes, cs) ← number 2 (some 2) (← between cs)
  if minutes < 60 then some (hours * 3600 + minutes * 60, cs) else none

/-! ## The strict form -/

def strictDate : Reader Date := fun cs => do
  let (year, cs) ← number 4 (some 4) cs
  let (_, cs) ← char '-' cs
  let (month, cs) ← number 2 (some 2) cs
  let (_, cs) ← char '-' cs
  let (day, cs) ← number 2 (some 2) cs
  some (← Date.of? year month day, cs)

def strictZone (cs : List Char) : Bool :=
  match cs with
  | ['Z'] | ['z'] => true
  | _ =>
    match offset (fun cs => (char ':' cs).map (·.2)) cs with
    | some (seconds, []) => seconds < 86400
    | _ => false

def strict? (cs : List Char) : Option LocalTime := do
  let (date, cs) ← strictDate cs
  let cs ← match cs with
    | c :: rest => if c = 'T' ∨ c = 't' ∨ c = ' ' then some rest else none
    | [] => none
  let (hour, cs) ← number 2 (some 2) cs
  let (_, cs) ← char ':' cs
  let (minute, cs) ← number 2 (some 2) cs
  let (_, cs) ← char ':' cs
  let (second, cs) ← number 2 (some 2) cs
  let (nanos, cs) ← fraction cs
  if strictZone cs then LocalTime.of? date hour minute second nanos else none

/-! ## The loose form -/

def field : Reader Nat := fun cs => number 1 (some 2) (skipBlanks cs)

/-- Up to four digits, or a sign and any number of them. -/
def year : Reader Int := fun cs =>
  match skipBlanks cs with
  | '-' :: rest => (number 1 none rest).map fun (n, r) => (-n, r)
  | '+' :: rest => (number 1 none rest).map fun (n, r) => (n, r)
  | rest => (number 1 (some 4) rest).map fun (n, r) => (n, r)

def looseDate : Reader Date := fun cs => do
  let (y, cs) ← year cs
  let (_, cs) ← char '-' cs
  let (month, cs) ← field cs
  let (_, cs) ← char '-' cs
  let (day, cs) ← field cs
  some (← Date.of? y month day, cs)

/-- Nothing, a capital Z, or an offset. -/
def looseZone (cs : List Char) : Bool :=
  match cs with
  | [] | ['Z'] => true
  | _ =>
    match offset (fun cs => some (cs.dropWhile fun c => c = ':' || isBlank c)) (skipBlanks cs) with
    | some (_, []) => true
    | _ => false

/-- Seconds and their fraction may be missing together. -/
def looseSeconds (cs : List Char) : Option ((Nat × Nat) × List Char) :=
  match cs with
  | ':' :: cs => do
    let (second, cs) ← field cs
    let (nanos, cs) ← fraction cs
    some ((second, nanos), cs)
  | cs => some ((0, 0), cs)

def loose? (cs : List Char) : Option LocalTime := do
  let (date, cs) ← looseDate cs
  let cs := match cs with
    | 'T' :: rest => rest
    | _ => skipBlanks cs
  let (hour, cs) ← field cs
  let (_, cs) ← char ':' cs
  let (minute, cs) ← field cs
  let ((second, nanos), cs) ← looseSeconds cs
  if looseZone cs then LocalTime.of? date hour minute second nanos else none

/-- What the local clock shows, read as universal time. -/
def instant? (s : String) : Option Instant :=
  ((strict? s.toList).orElse fun _ => loose? s.toList).bind LocalTime.instant?

end KeyedRecords.Reading
