import KeyedRecords.Text.Numeral

/-!
Spans of time and clock readings, to the nanosecond.
-/

namespace KeyedRecords

/-- A clock reading: nanoseconds since 1970-01-01T00:00:00Z, leap seconds not counted. -/
abbrev Moment := Int

structure Span where
  nanos : Nat
  deriving DecidableEq

namespace Span

def ofSeconds (n : Nat) : Span := ⟨n * 1000000000⟩

def ofMillis (n : Nat) : Span := ⟨n * 1000000⟩

def isZero (d : Span) : Bool := d.nanos == 0

def seconds (d : Span) : Nat := d.nanos / 1000000000

/-- The nanoseconds past the last whole second. -/
def subsecond (d : Span) : Nat := d.nanos % 1000000000

def millis (d : Span) : Nat := d.nanos / 1000000

/-- The longest span that a clock reading can be moved by: `2 ^ 63 - 1` milliseconds. -/
def longest : Span := ofMillis 9223372036854775807

/-- Seconds with their exact fraction. -/
def text (d : Span) : String :=
  let fraction := (Text.paddedDecimal 9 d.subsecond).toList
  let shown := (fraction.reverse.dropWhile (· == '0')).reverse
  Text.decimal d.seconds ++ (if shown.isEmpty then "" else "." ++ String.ofList shown) ++ "s"

end Span

end KeyedRecords
