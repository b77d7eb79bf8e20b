import KeyedRecords.Number.Shortest
import KeyedRecords.Text.Numeral

/-!
Written forms of floating point numbers.
-/

namespace KeyedRecords

/-- Choices in writing a finite number. -/
structure NumberLayout where
  tie : Tie
  /-- Whether a number with that many digits before the point is written without an exponent. -/
  positional : Int → Bool
  /-- Whether a whole number written without an exponent ends in a point and a zero. -/
  pointZero : Bool

namespace NumberLayout

/-- The layout of JSON texts. -/
def json : NumberLayout where
  tie := .even
  positional point := -4 ≤ point && point ≤ 16
  pointZero := true

/-- The layout of keys shown to people: never an exponent. -/
def plain : NumberLayout where
  tie := .up
  positional _ := true
  pointZero := false

end NumberLayout

namespace Decimal

/-- Digits with the point where it belongs. -/
def positional (pointZero : Bool) (d : Decimal) : List Char :=
  let ds := d.digits
  let p := d.point
  if p ≤ 0 then ['0', '.'] ++ List.replicate (-p).toNat '0' ++ ds
  else if ds.length ≤ p then
    ds ++ List.replicate (p - ds.length).toNat '0' ++ if pointZero then ['.', '0'] else []
  else ds.take p.toNat ++ ['.'] ++ ds.drop p.toNat

/-- One digit before the point, then the exponent with its sign. -/
def scientific (d : Decimal) : List Char :=
  let x := d.point - 1
  (match d.digits with
    | [c] => [c]
    | c :: rest => c :: '.' :: rest
    | [] => []) ++
    ['e', if x < 0 then '-' else '+'] ++ Nat.toDigits 10 x.natAbs

end Decimal

namespace Double

/-- Zero is written as one digit. -/
private def unsignedChars (layout : NumberLayout) (x : Double) : List Char :=
  let d := x.shortest layout.tie
  if d.coefficient = 0 then d.positional layout.pointZero
  else if layout.positional d.point then d.positional layout.pointZero
  else d.scientific

/-- The text of a finite number; the sign of zero is kept. -/
def text (layout : NumberLayout) (x : Double) : String :=
  String.ofList ((if x.isNegative then ['-'] else []) ++ x.unsignedChars layout)

/-- The text of a number as a key is shown, infinities and NaN included. -/
def plainText (x : Double) : String :=
  if x.isNaN then "NaN"
  else if !x.isFinite then if x.isNegative then "-inf" else "inf"
  else x.text .plain

/-- The magnitude of a finite number with `places` digits after the point, ties to even. -/
def fixedText (places : Nat) (x : Double) : String :=
  let (m, q) := x.magnitude
  let n := roundDiv .even (m * twoPow q.toNat * tenPow places) (twoPow (-q).toNat)
  Text.decimal (n / tenPow places) ++ "." ++ Text.paddedDecimal places (n % tenPow places)

end Double

end KeyedRecords
