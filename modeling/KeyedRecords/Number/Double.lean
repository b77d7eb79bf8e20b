import KeyedRecords.Number.Power
import KeyedRecords.Number.Rounding

/-!
Binary floating point numbers of 64 bits, kept as their bits: two of them are equal when all bits
are, so a zero differs from its negative and a NaN equals itself. Arithmetic is exact and then
rounded to nearest, ties to even.
-/

namespace KeyedRecords

structure Double where
  bits : UInt64
  deriving DecidableEq

/-- The number `significand * 2 ^ exponent`. -/
structure Scaled where
  significand : Int
  exponent : Int
  deriving DecidableEq

namespace Scaled

/-- The same number as a fraction with a positive denominator. -/
def fraction (x : Scaled) : Int × Nat :=
  (x.significand * twoPow x.exponent.toNat, twoPow (-x.exponent).toNat)

def sub (x y : Scaled) : Scaled :=
  let e := min x.exponent y.exponent
  let scale (z : Scaled) : Int := z.significand * twoPow (z.exponent - e).toNat
  ⟨scale x - scale y, e⟩

def mul (x y : Scaled) : Scaled :=
  ⟨x.significand * y.significand, x.exponent + y.exponent⟩

/-- The integer next to `x` in the direction of zero. -/
def truncate (x : Scaled) : Int :=
  let (num, den) := x.fraction
  num.tdiv den

/-- The integer equal to `x`, if there is one. -/
def integer? (x : Scaled) : Option Int :=
  let (num, den) := x.fraction
  if num.tmod den = 0 then some (num.tdiv den) else none

end Scaled

namespace Double

def isNegative (x : Double) : Bool := twoPow 63 ≤ x.bits.toNat

/-- The eleven bits after the sign. -/
def exponentField (x : Double) : Nat := x.bits.toNat / twoPow 52 % twoPow 11

def fractionField (x : Double) : Nat := x.bits.toNat % twoPow 52

def isFinite (x : Double) : Bool := x.exponentField != 2047

def isNaN (x : Double) : Bool := x.exponentField == 2047 && x.fractionField != 0

/-- Significand and exponent of the magnitude of a finite number. -/
def magnitude (x : Double) : Nat × Int :=
  if x.exponentField = 0 then (x.fractionField, -1074)
  else (twoPow 52 + x.fractionField, (x.exponentField : Int) - 1075)

def scaled (x : Double) : Scaled :=
  let (m, q) := x.magnitude
  ⟨if x.isNegative then -m else m, q⟩

def withSign (negative : Bool) (magnitudeBits : Nat) : Double :=
  ⟨.ofNat (magnitudeBits + if negative then twoPow 63 else 0)⟩

def infinity : Double := withSign false (2047 * twoPow 52)

/-- The greatest finite number. -/
def greatest : Double := withSign false (2047 * twoPow 52 - 1)

/-- The exponent of the greatest power of two that is at most `num / den`. -/
def log2Ratio (num den : Nat) : Int :=
  let k : Int := (num.log2 : Int) - den.log2
  if num * twoPow (-k).toNat < den * twoPow k.toNat then k - 1 else k

/-- The number nearest to `num / den`; past the greatest finite number it is infinite. -/
def ofRatio (negative : Bool) (num den : Nat) : Double :=
  if num = 0 then withSign negative 0 else
    let q := max (log2Ratio num den - 52) (-1074)
    let m := roundDiv .even (num * twoPow (-q).toNat) (den * twoPow q.toNat)
    -- A significand rounded up to 2 ^ 53 carries into the exponent field.
    let magnitudeBits := m + (q + 1074).toNat * twoPow 52
    withSign negative (min magnitudeBits (2047 * twoPow 52))

def ofScaled (x : Scaled) : Double :=
  let (num, den) := x.fraction
  ofRatio (num < 0) num.natAbs den

def ofInt (n : Int) : Double := ofRatio (n < 0) n.natAbs 1

def sub (x y : Double) : Double := ofScaled (x.scaled.sub y.scaled)

def mul (x y : Double) : Double := ofScaled (x.scaled.mul y.scaled)

/-- The quotient of two numbers that are not negative, the second one not zero. -/
def div (x y : Double) : Double :=
  let (a, b) := x.scaled.fraction
  let (c, d) := y.scaled.fraction
  ofRatio false (a.natAbs * d) (b * c.natAbs)

end Double

end KeyedRecords
