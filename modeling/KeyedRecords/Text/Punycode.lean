/-!
Punycode: texts of any characters, written in the letters and digits of ASCII. The characters of
ASCII come first; the others follow by their differences, in numbers whose last digit is told by a
threshold.
-/

namespace KeyedRecords.Punycode

def digit? (c : Char) : Option Nat :=
  if 'a' ≤ c ∧ c ≤ 'z' then some (c.toNat - 'a'.toNat)
  else if 'A' ≤ c ∧ c ≤ 'Z' then some (c.toNat - 'A'.toNat)
  else if '0' ≤ c ∧ c ≤ '9' then some (c.toNat - '0'.toNat + 26)
  else none

/-- A digit below the threshold of its place is the last one of a number. -/
def threshold (place bias : Nat) : Nat := min 26 (max 1 (place - bias))

/-- Divides by 35 until at most 455 is left, and adds 36 to `k` each time. -/
def scale (k delta : Nat) : Nat × Nat :=
  if 455 < delta then scale (k + 36) (delta / 35) else (k, delta)
termination_by delta
decreasing_by exact Nat.div_lt_self (by omega) (by omega)

/-- The bias after a difference, `count` being the characters read up to then. -/
def adapt (delta count : Nat) (isFirst : Bool) : Nat :=
  let delta := if isFirst then delta / 700 else delta / 2
  let (k, delta) := scale 0 (delta + delta / count)
  k + 36 * delta / (delta + 38)

/-- What has been read up to a digit. -/
structure State where
  output : List Char
  /-- The code point that was inserted last. -/
  code : Nat := 128
  /-- Where the next character goes if its difference is zero. -/
  index : Nat := 0
  bias : Nat := 72
  isFirst : Bool := true
  /-- The digits of the current number, and the weight and the place of its next digit. -/
  value : Nat := 0
  weight : Nat := 1
  place : Nat := 36

/-- Inserts the character that a difference leads to. -/
def insert (s : State) (delta : Nat) : Option State :=
  let count := s.output.length + 1
  let sum := s.index + delta
  let code := s.code + sum / count
  let index := sum % count
  if code.isValidChar then
    some
      { output := s.output.take index ++ Char.ofNat code :: s.output.drop index
        code
        index := index + 1
        bias := adapt delta count s.isFirst
        isFirst := false }
  else
    none

def step (s : State) (c : Char) : Option State := do
  let digit ← digit? c
  let value := s.value + digit * s.weight
  let t := threshold s.place s.bias
  if digit < t then insert s value
  else some { s with value, weight := s.weight * (36 - t), place := s.place + 36 }

/-- The characters of ASCII, and the digits behind the last hyphen. -/
def split (cs : List Char) : List Char × List Char :=
  let digits := (cs.reverse.takeWhile (· != '-')).reverse
  let rest := cs.length - digits.length
  if rest ≤ 1 then ([], cs) else (cs.take (rest - 1), digits)

/-- The text that is written so; `none` if it ends within a number. -/
def decode? (cs : List Char) : Option (List Char) := do
  let (ascii, digits) := split cs
  let s ← digits.foldlM step { output := ascii }
  if s.place = 36 then some s.output else none

end KeyedRecords.Punycode
