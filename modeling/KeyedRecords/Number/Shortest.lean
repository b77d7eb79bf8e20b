import KeyedRecords.Number.Double

/-!
The shortest decimal that stands for a floating point number and reads back as it.
-/

namespace KeyedRecords

/-- The number `coefficient * 10 ^ exponent`. -/
structure Decimal where
  coefficient : Nat
  exponent : Int
  deriving DecidableEq

namespace Decimal

def digits (d : Decimal) : List Char := Nat.toDigits 10 d.coefficient

/-- The number of digits before the decimal point; not positive when zeros follow the point. -/
def point (d : Decimal) : Int := d.digits.length + d.exponent

/-- The same number without the zeros at the end of its coefficient. -/
def strip (d : Decimal) : Decimal :=
  let zeros := (d.digits.reverse.takeWhile (· == '0')).length
  if d.coefficient = 0 then d else ⟨d.coefficient / tenPow zeros, d.exponent + zeros⟩

end Decimal

namespace Double

/-- The least `p` with `num / den < 10 ^ p`, for a positive number. -/
def decimalPoint (num den : Nat) : Int :=
  if den ≤ num then (Nat.toDigits 10 (num / den)).length
  else 1 - ((Nat.toDigits 10 ((den - 1) / num)).length : Int)

/-- Four times the numbers between which all reals round to `m * 2 ^ q`, in units of `2 ^ q`. -/
def roundingInterval (m : Nat) (q : Int) : Nat × Nat :=
  (if m = twoPow 52 ∧ -1074 < q then 4 * m - 1 else 4 * m - 2, 4 * m + 2)

/-- The decimal of `count` digits nearest to `m * 2 ^ q` among those that read back. -/
def readBackDecimal? (tie : Tie) (m : Nat) (q : Int) (count : Nat) : Option Decimal :=
  let up := twoPow q.toNat
  let down := 4 * twoPow (-q).toNat
  let e := decimalPoint (4 * m * up) down - count
  let scale := up * tenPow (-e).toNat
  let unit := down * tenPow e.toNat
  let (low, high) := roundingInterval m q
  let readsBack (c : Nat) : Bool :=
    if m % 2 = 0 then low * scale ≤ c * unit && c * unit ≤ high * scale
    else low * scale < c * unit && c * unit < high * scale
  let nearest := roundDiv tie (4 * m * scale) unit
  let floor := 4 * m * scale / unit
  let other := if nearest = floor then floor + 1 else floor
  if readsBack nearest then some ⟨nearest, e⟩
  else if readsBack other then some ⟨other, e⟩
  else none

/-- The shortest decimal that reads back as the magnitude of a finite number. No decimal of more
than seventeen digits is ever needed. -/
def shortest (tie : Tie) (x : Double) : Decimal :=
  let (m, q) := x.magnitude
  if m = 0 then ⟨0, 0⟩ else
    (((List.range 17).findSome? fun i => readBackDecimal? tie m q (i + 1)).getD ⟨0, 0⟩).strip

end Double

end KeyedRecords
