import KeyedRecords.Number.Double

/-!
Numbers that are not negative and have a significand of at most 64 bits, as they are kept between
the steps of a computation that ends in a number of 53 bits. Each product is rounded to nearest,
ties to even. The exponent is not limited: whatever is too great or too small for 64 bits in all
becomes so when the result is rounded.
-/

namespace KeyedRecords

/-- The number `significand * 2 ^ exponent`. -/
structure Extended where
  significand : Nat
  exponent : Int
  deriving DecidableEq

namespace Extended

/-- The number nearest to `significand * 2 ^ exponent`. -/
def round (significand : Nat) (exponent : Int) : Extended :=
  let surplus := significand.log2 - 63
  ⟨roundDiv .even significand (twoPow surplus), exponent + surplus⟩

def ofNat (n : Nat) : Extended := round n 0

def mul (x y : Extended) : Extended :=
  round (x.significand * y.significand) (x.exponent + y.exponent)

/-- The number nearest to `10 ^ n`. -/
def tenPow (n : Nat) : Extended := ofNat (KeyedRecords.tenPow n)

/-- The number nearest to `10 ^ -n`. -/
def tenthPow (n : Nat) : Extended :=
  let q := Double.log2Ratio 1 (KeyedRecords.tenPow n) - 63
  ⟨roundDiv .even (twoPow (-q).toNat) (KeyedRecords.tenPow n * twoPow q.toNat), q⟩

def scaled (x : Extended) : Scaled := ⟨x.significand, x.exponent⟩

def isBelow (x y : Extended) : Bool := (x.scaled.sub y.scaled).significand < 0

/-- The magnitude of a finite number, which needs no rounding. -/
def ofDouble (x : Double) : Extended := ⟨x.magnitude.1, x.magnitude.2⟩

def toDouble (x : Extended) : Double := .ofScaled x.scaled

/-- Multiplies by a factor `n` times. -/
def mulRepeatedly (x factor : Extended) (n : Nat) : Extended := n.repeat (·.mul factor) x

/-- Multiplies by a factor as long as a condition holds, at most `limit` times, and counts. -/
def mulWhile (x : Extended) (condition : Extended → Bool) (factor : Extended) :
    (limit : Nat) → Extended × Nat
  | 0 => (x, 0)
  | limit + 1 =>
    if condition x then
      let (y, n) := mulWhile (x.mul factor) condition factor limit
      (y, n + 1)
    else
      (x, 0)

end Extended

end KeyedRecords
