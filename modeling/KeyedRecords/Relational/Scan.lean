import KeyedRecords.Number.Power
import KeyedRecords.Relational.Table

/-!
The order in which the rows of a table are read: that of their numbers, or that of a column without
equal cells if nothing but this column is asked for and it is narrower than the whole table.
-/

namespace KeyedRecords

/-- What follows the last place where a word stands. -/
def afterLast? (word : List Char) : List Char → Option (List Char)
  | [] => none
  | c :: rest =>
    afterLast? word rest <|>
      if word.isPrefixOf (c :: rest) then some ((c :: rest).drop word.length) else none

/-- The greatest length that a type may ask for. -/
def maxLength : Nat := 2147483647

/-- The number of bytes that is named in what follows the word of a type. -/
def lengthIn (cs : List Char) : Nat :=
  let n := Text.digitsValue ((cs.dropWhile (!Text.isDigit ·)).takeWhile Text.isDigit)
  if n ≤ maxLength then n else 0

namespace Column

/-- The number of bytes of a text or of bytes, as the type tells it; a number has none to tell. -/
def length (c : Column) : Nat :=
  let type := c.type.toLower.toList
  match c.affinity with
  | .text =>
    match afterLast? "char".toList type with
    | some rest => lengthIn rest
    | none => 16
  | .none =>
    match (afterLast? "blob".toList type).map (·.dropWhile (· == ' ')) with
    | some ('(' :: rest) => lengthIn rest
    | some _ => 16
    | none => 0
  | .integer | .real | .numeric => 0

/-- How wide a column is taken to be, the unit being an integer. -/
def width (c : Column) : Nat := min (c.length / 4 + 1) 255

end Column

/-- About ten times the logarithm to the base two of a number that is not zero. -/
def tenfoldLog (n : Nat) : Nat :=
  10 * n.log2 + ([0, 2, 3, 5, 6, 7, 8, 9][8 * n / twoPow n.log2 % 8]?.getD 0)

/-- What is compared of two widths. -/
def roughWidth (width : Nat) : Nat := tenfoldLog (4 * width)

namespace Unique

/-- The rough width of what is read of a row in the order of a column: its cell and the number. -/
def entryWidth (u : Unique) : Nat := roughWidth (u.column.width + 1)

/-- Whether a row comes before another in the order of a column, or has the same cell. -/
def inOrder (u : Unique) (r s : Row) : Bool :=
  let declared := u.column.declaration
  if declared.isDescending then (s.cell u.place).le declared.collation (r.cell u.place)
  else (r.cell u.place).le declared.collation (s.cell u.place)

end Unique

namespace Table

/-- The rough width of a row. The number of a row that is in no column is as wide as an integer. -/
def rowWidth (t : Table) : Nat :=
  roughWidth (t.columns.foldl (· + ·.width) (if t.numberColumn?.isNone then 1 else 0))

/-- The column in whose order the rows are read if columns at some places are asked for: the one
that takes the least to read, and the first of those that take the same. -/
def scanned? (t : Table) (places : List Nat) : Option Unique :=
  let cost (u : Unique) : Nat := 15 * u.entryWidth / t.rowWidth
  let found := t.indexes.filter fun u =>
    places.all (· == u.place) && u.entryWidth < t.rowWidth
  found.find? fun u => found.all fun v => cost u ≤ cost v

/-- The table with its rows in the order in which they are read. The places of numbers of rows do
not count, for these are always at hand. -/
def scan (t : Table) (places : List Nat) : Table :=
  let asked := places.filter fun i => i < t.columns.length && t.numberColumn? ≠ some i
  match t.scanned? asked with
  | none => t
  | some u => { t with rows := t.rows.mergeSort u.inOrder }

end Table

end KeyedRecords
