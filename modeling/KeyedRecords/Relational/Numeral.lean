import KeyedRecords.Number.Extended
import KeyedRecords.Number.Layout

/-!
Numerals in the texts of tables: the number that a numeral denotes, and the fifteen digits that a
real number is written with. Powers of ten are multiplied in step by step with 64 bits, so the last
digit can differ from that of the exact product.
-/

namespace KeyedRecords

/-- A numeral with a sign, a point and an exponent of ten, each of which may be missing. -/
structure Numeral where
  negative : Bool
  /-- The digits before the point. -/
  whole : List Char
  fraction : List Char
  exponent : Int
  /-- Whether there is neither a point nor an exponent. -/
  isWhole : Bool

namespace Numeral

/-- Blanks that may stand around a number. -/
def isPadding (c : Char) : Bool := c == ' ' || (9 ≤ c.toNat && c.toNat ≤ 13)

def splitSign : List Char → Bool × List Char
  | '-' :: rest => (true, rest)
  | '+' :: rest => (false, rest)
  | cs => (false, cs)

/-- An exponent of ten, `none` if what follows the mantissa is no exponent. More than four digits
make no difference. -/
def exponent? : List Char → Option Int
  | [] => some 0
  | c :: rest =>
    if c = 'e' ∨ c = 'E' then
      let (negative, digits) := splitSign rest
      (Text.numeral? digits).map fun n =>
        if negative then -((min n 10000 : Nat) : Int) else (min n 10000 : Nat)
    else
      none

/-- The numeral that a text consists of, blanks around it aside. -/
def ofText? (s : String) : Option Numeral :=
  let cs := s.toList.dropWhile isPadding
  let (negative, cs) := splitSign ((cs.reverse.dropWhile isPadding).reverse)
  let whole := cs.takeWhile Text.isDigit
  let rest := cs.dropWhile Text.isDigit
  let (fraction, tail) := match rest with
    | '.' :: after => (after.takeWhile Text.isDigit, after.dropWhile Text.isDigit)
    | _ => ([], rest)
  if whole.isEmpty && fraction.isEmpty then none
  else (exponent? tail).map fun exponent =>
    { negative, whole, fraction, exponent, isWhole := rest.isEmpty }

/-- The integer that a whole numeral denotes. -/
def int (n : Numeral) : Int :=
  let magnitude : Int := Text.digitsValue n.whole
  if n.negative then -magnitude else magnitude

/-! ## The real number that a numeral denotes -/

/-- A number that takes no further digit. -/
def isFull (s : Nat) : Bool := 1844674407370955160 ≤ s

/-- Takes in a digit before the point, or leaves it out and counts it as a power of ten. -/
def addWhole (s : Nat × Int) (c : Char) : Nat × Int :=
  if isFull s.1 then (s.1, s.2 + 1) else (10 * s.1 + Text.digitValue c, s.2)

/-- Takes in a digit after the point, or leaves it out. -/
def addFraction (s : Nat × Int) (c : Char) : Nat × Int :=
  if isFull s.1 then s else (10 * s.1 + Text.digitValue c, s.2 - 1)

/-- The first digits as a number, and the power of ten that it is multiplied with. -/
def leading (n : Numeral) : Nat × Int :=
  n.fraction.foldl addFraction (n.whole.foldl addWhole (0, n.exponent))

/-- Moves powers of ten into a number as long as it stays within 64 bits; those left over come
second. -/
def absorb : Nat → Nat → Nat × Nat
  | s, 0 => (s, 0)
  | s, e + 1 => if s < 1844674407370955161 then absorb (10 * s) e else (s, e + 1)

/-- Divides a number by ten as long as that leaves no remainder. -/
def reduce : Nat → Nat → Nat × Nat
  | s, 0 => (s, 0)
  | s, e + 1 => if s % 10 = 0 then reduce (s / 10) e else (s, e + 1)

/-- Multiplies by the power `e` of ten or of a tenth, as `power` has it. -/
def mulPower (power : Nat → Extended) (e : Nat) (x : Extended) : Extended :=
  x.mulRepeatedly (power 100) (e / 100)
    |>.mulRepeatedly (power 10) (e % 100 / 10)
    |>.mulRepeatedly (power 1) (e % 10)

def magnitude (n : Numeral) : Extended :=
  match n.leading with
  | (0, _) => .ofNat 0
  | (s, .ofNat e) =>
    let (s, e) := absorb s e
    mulPower .tenPow e (.ofNat s)
  | (s, .negSucc e) =>
    let (s, e) := reduce s (e + 1)
    mulPower .tenthPow e (.ofNat s)

/-- The real number that a numeral denotes. Past the greatest one it is infinite. -/
def real (n : Numeral) : Double :=
  let x := n.magnitude
  let bound := Extended.ofDouble .greatest
  let y := if bound.isBelow x then .infinity else x.toDouble
  .withSign n.negative y.bits.toNat

/-! ## The digits of a real number -/

/-- A positive number brought down below `10 ^ 19`, and the power of ten taken from it. No finite
number takes more than eleven steps of a size. -/
def bringDown (x : Extended) : Extended × Int :=
  let (x, hundreds) := x.mulWhile (!·.isBelow (.tenPow 119)) (.tenthPow 100) 11
  let (x, tens) := x.mulWhile (!·.isBelow (.tenPow 29)) (.tenthPow 10) 11
  let (x, ones) := x.mulWhile (!·.isBelow (.tenPow 19)) (.tenthPow 1) 11
  (x, 100 * hundreds + 10 * tens + ones)

/-- A positive number brought up to `10 ^ 17` or more, and the power of ten taken from it. -/
def bringUp (x : Extended) : Extended × Int :=
  let (x, hundreds) := x.mulWhile (·.isBelow (.tenthPow 97)) (.tenPow 100) 11
  let (x, tens) := x.mulWhile (·.isBelow (.tenPow 7)) (.tenPow 10) 11
  let (x, ones) := x.mulWhile (·.isBelow (.tenPow 17)) (.tenPow 1) 11
  (x, -(100 * hundreds + 10 * tens + ones))

/-- Fifteen digits of a positive finite number, the last one rounded half up. -/
def decimal (x : Double) : Decimal :=
  let x := Extended.ofDouble x
  let (x, e) := if x.isBelow (.tenPow 19) then bringUp x else bringDown x
  let n := x.scaled.truncate.toNat
  let surplus := (Nat.toDigits 10 n).length - 15
  (Decimal.mk (roundDiv .up n (tenPow surplus)) (e + surplus)).strip

/-- A real number with a point always, and with an exponent where it is far from one. -/
def text (x : Double) : String :=
  if !x.isFinite then if x.isNegative then "-Inf" else "Inf"
  else if x.magnitude.1 = 0 then "0.0"
  else
    let d := decimal x
    let point := d.point
    let body :=
      if -4 < point ∧ point ≤ 15 then d.positional true
      else
        (Decimal.mk d.coefficient (1 - (d.digits.length : Int))).positional true ++
          ['e', if point ≤ 0 then '-' else '+'] ++
            (Nat.toDigits 10 (point - 1).natAbs).leftpad 2 '0'
    (if x.isNegative then "-" else "") ++ String.ofList body

end Numeral

end KeyedRecords
