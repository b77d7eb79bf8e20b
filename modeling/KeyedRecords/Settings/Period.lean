import KeyedRecords.LookupError
import KeyedRecords.Text.Blank

/-!
Time periods in words, such as 30 secs or 5 mins.
-/

namespace KeyedRecords.Period

/-- Units and their milliseconds. A number without a unit counts seconds. -/
def unitMillis? (unit : String) : Option Nat :=
  match unit with
  | "ms" | "milli" | "millis" | "msec" | "msecs" | "millisecond" | "milliseconds" => some 1
  | "" | "s" | "sec" | "secs" | "second" | "seconds" => some 1000
  | "m" | "min" | "mins" | "minute" | "minutes" => some 60000
  | "h" | "hr" | "hrs" | "hour" | "hours" => some 3600000
  | "d" | "day" | "days" => some 86400000
  | _ => none

def isUnitLetter (c : Char) : Bool := c.isAlpha

/-- The number and the unit of a period, in lower case. White space may stand around both. -/
def parts? (cs : List Char) : Option (Nat × String) :=
  let cs := cs.dropWhile Text.isBlank
  let unit := (cs.dropWhile Text.isDigit).dropWhile Text.isBlank
  if (unit.dropWhile isUnitLetter).all Text.isBlank then
    (Text.numeral? (cs.takeWhile Text.isDigit)).map fun amount =>
      (amount, String.ofList ((unit.takeWhile isUnitLetter).map Char.toLower))
  else
    none

/-- Neither the number nor the milliseconds may exceed 64 bits. -/
def span? (s : String) : Option Span := do
  let (amount, unit) ← parts? s.toList
  let millis ← unitMillis? unit
  if amount ≤ Text.maxWord ∧ amount * millis ≤ Text.maxWord then
    some (.ofMillis (amount * millis))
  else
    none

def parse (s : String) : Except LookupError Span :=
  match span? s with
  | some d => .ok d
  | none => .error (.setting (.notAPeriod s))

end KeyedRecords.Period
