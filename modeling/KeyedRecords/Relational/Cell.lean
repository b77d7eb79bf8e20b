import KeyedRecords.Record.Value
import KeyedRecords.Relational.Declaration
import KeyedRecords.Relational.Numeral

/-!
Cells of tables, when two of them are equal, and texts that denote numbers.
-/

namespace KeyedRecords

inductive Cell where
  | null
  | integer (n : Int64)
  | real (x : Double)
  | text (s : String)
  | blob (bytes : List UInt8)
  deriving DecidableEq

namespace Cell

/-- There is no NaN in a table. -/
def ofDouble (x : Double) : Cell := if x.isNaN then null else real x

/-- The cell that a value becomes as an argument of a statement. -/
def ofValue : Value → Cell
  | .null => null
  | .string s => text s
  | .long n => integer n
  | .int n => integer n.toInt64
  | .byte n => integer n.toInt64
  | .boolean b => integer (if b then 1 else 0)
  | .double x => ofDouble x
  | .timestamp t => text t.columnText

def sameReal (x y : Double) : Bool :=
  x == y || x.isFinite && y.isFinite && (x.scaled.sub y.scaled).significand == 0

def sameInteger (n : Int64) (x : Double) : Bool :=
  x.isFinite && x.scaled.integer? == some n.toInt

/-- Whether a comparison finds two cells equal. Numbers are compared exactly, texts by a collation,
and null is equal to nothing. -/
def matches? (collation : Collation) : Cell → Cell → Bool
  | integer m, integer n => m == n
  | real x, real y => sameReal x y
  | integer n, real x => sameInteger n x
  | real x, integer n => sameInteger n x
  | text s, text t => collation.same s t
  | blob b, blob c => b == c
  | _, _ => false

/-! ## The order of cells -/

/-- Empty cells come first, then numbers, texts and bytes. -/
def rank : Cell → Nat
  | null => 0
  | integer _ | real _ => 1
  | text _ => 2
  | blob _ => 3

/-- Infinity counts as the power of two after the greatest number. -/
def scaled : Cell → Scaled
  | integer n => ⟨n.toInt, 0⟩
  | real x => x.scaled
  | null | text _ | blob _ => ⟨0, 0⟩

def bytesLe : List UInt8 → List UInt8 → Bool
  | [], _ => true
  | _ :: _, [] => false
  | a :: as, b :: bs => a < b || a == b && bytesLe as bs

/-- Whether a cell comes before another or is equal to it. -/
def le (collation : Collation) (a b : Cell) : Bool :=
  a.rank < b.rank || a.rank == b.rank &&
    match a, b with
    | text s, text t => collation.le s t
    | blob s, blob t => bytesLe s t
    | _, _ => (a.scaled.sub b.scaled).significand ≤ 0

/-! ## Numbers in texts -/

/-- The least integer that a cell can hold. -/
def leastInteger : Int := -9223372036854775808

/-- The greatest integer that a cell can hold. -/
def greatestInteger : Int := 9223372036854775807

def integerOf? (n : Int) : Option Cell :=
  if leastInteger ≤ n ∧ n ≤ greatestInteger then some (integer (.ofInt n)) else none

/-- A whole real number as an integer, if it lies strictly between the least and the greatest. -/
def wholeOf (x : Double) : Cell :=
  match if x.isFinite then x.scaled.integer? else none with
  | some n => if leastInteger < n ∧ n < greatestInteger then integer (.ofInt n) else real x
  | none => real x

/-- The number that a text denotes. -/
def numberOf? (s : String) : Option Cell :=
  (Numeral.ofText? s).map fun n =>
    match if n.isWhole then integerOf? n.int else none with
    | some cell => cell
    | none => wholeOf n.real

end Cell

end KeyedRecords
