import KeyedRecords.Relational.Column
import KeyedRecords.Relational.Statement

/-!
Tables of rows. A row is stored as the columns have it, and only if their constraints allow it.
-/

namespace KeyedRecords

structure Column where
  name : String
  /-- What was declared of the column: its type, possibly none, and its constraints. -/
  declared : String
  deriving DecidableEq

namespace Column

def declaration (c : Column) : Declaration := .parse c.declared

/-- The declared type alone. -/
def type (c : Column) : String := c.declaration.type

def affinity (c : Column) : Affinity := .ofDeclared c.type

end Column

structure Row where
  number : Int64
  cells : List Cell
  deriving DecidableEq

namespace Row

/-- The cell of a column. -/
def cell (r : Row) (column : Nat) : Cell := r.cells[column]?.getD .null

end Row

/-- The rows are in the order of their numbers. -/
structure Table where
  name : String
  columns : List Column
  rows : List Row
  deriving DecidableEq

/-- A column without equal cells. -/
structure Unique where
  column : Column
  /-- Where the column stands among those of its table, counted from zero. -/
  place : Nat
  isKey : Bool
  resolution : Resolution
  deriving DecidableEq

namespace Unique

/-- Whether two rows have the same cell. -/
def repeats (u : Unique) (r s : Row) : Bool :=
  (r.cell u.place).matches? u.column.declaration.collation (s.cell u.place)

end Unique

namespace Table

/-- The column that holds the numbers of the rows, if one does. -/
def numberColumn? (t : Table) : Option Nat := t.columns.findIdx? (·.declaration.isRowNumber)

/-- The column of the numbers of the rows, as one without equal cells. -/
def numbers (t : Table) : List Unique :=
  t.columns.zipIdx.filterMap fun (column, place) =>
    let declared := column.declaration
    if declared.isRowNumber then declared.key.map (⟨column, place, true, ·⟩) else none

/-- The other columns without equal cells, from the last one to the first; those in which a row
takes the place of others come after the rest. -/
def indexes (t : Table) : List Unique :=
  let found := (t.columns.zipIdx.filterMap fun (column, place) =>
    let declared := column.declaration
    let isKey := !declared.isRowNumber && declared.key.isSome
    declared.distinct.map (⟨column, place, isKey, ·⟩)).reverse
  found.filter (·.resolution ≠ .replace) ++ found.filter (·.resolution = .replace)

/-! ## Inserting rows -/

/-- Cells as they are stored in the columns. -/
def stored (columns : List Column) (cells : List Cell) : List Cell :=
  columns.zipWith (fun column cell => column.affinity.apply cell) cells

/-- One more than the greatest number of a row. -/
def nextNumber (t : Table) : Int64 := (t.rows.getLast?.map (·.number + 1)).getD 1

/-- A row of cells. If a column holds its number, an empty cell there gets the next one. -/
def numbered (t : Table) (cells : List Cell) : Except RowFault Row :=
  match t.numberColumn? with
  | none => .ok ⟨t.nextNumber, cells⟩
  | some place =>
    match cells[place]?.getD .null with
    | .integer n => .ok ⟨n, cells⟩
    | .null => .ok ⟨t.nextNumber, cells.set place (.integer t.nextNumber)⟩
    | _ => .error .badNumber

/-- The first column that a row leaves empty and should not. -/
def missing? (t : Table) (r : Row) : Option (Column × Resolution) :=
  (t.columns.zip r.cells).findSome? fun (column, cell) =>
    if cell = .null then column.declaration.required.map (column, ·) else none

/-- Puts a row where its number belongs. -/
def put (t : Table) (r : Row) : Table :=
  let precedes (s : Row) : Bool := s.number ≤ r.number
  { t with rows := t.rows.takeWhile precedes ++ [r] ++ t.rows.dropWhile precedes }

/-- Puts a row in a table after looking at columns without equal cells, one after the other. -/
def putUnlessRepeated (t : Table) (r : Row) : List Unique → Except RowFault Table
  | [] => .ok (t.put r)
  | u :: rest =>
    if !t.rows.any (u.repeats r) then t.putUnlessRepeated r rest
    else
      match u.resolution with
      | .refuse => .error (.repeated u.column.name u.isKey)
      | .leaveOut => .ok t
      | .replace =>
        { t with rows := t.rows.filter fun s => !u.repeats r s }.putUnlessRepeated r rest

/-- All columns without equal cells, in the order in which they are looked at. The numbers of the
rows come first, unless rows with the same number make way. -/
def uniqueColumns (t : Table) : List Unique :=
  t.numbers.filter (·.resolution ≠ .replace) ++ t.indexes ++
    t.numbers.filter (·.resolution = .replace)

/-- Inserts a row of cells. A column that must not be empty has nothing to put there instead. -/
def insertRow (t : Table) (cells : List Cell) : Except RowFault Table := do
  if cells.length ≠ t.columns.length then throw (.wrongWidth t.columns.length cells.length)
  let r ← t.numbered (stored t.columns cells)
  match t.missing? r with
  | some (_, .leaveOut) => pure t
  | some (column, _) => throw (.missing column.name)
  | none => t.putUnlessRepeated r t.uniqueColumns

/-- Inserts rows; those that the columns do not allow are left out. -/
def insert (t : Table) (rows : List (List Cell)) : Table :=
  rows.foldl (fun t cells => (t.insertRow cells).toOption.getD t) t

/-! ## Names -/

/-- Whether a name is that of a column. The name of the table may stand before that of the column,
and that of the schema before both. -/
def isNameOf (t : Table) (column : String) (n : Sql.Name) : Bool :=
  Sql.sameName n.last column &&
    match n.path with
    | [] => true
    | [table] => Sql.sameName table t.name
    | [schema, table] => Sql.sameName schema Sql.schemaName && Sql.sameName table t.name
    | _ => false

/-- Names of the number of a row, unless columns have them. -/
def rowNumberNames : List String := ["rowid", "oid", "_rowid_"]

/-- The place of a column. Where no column holds the numbers of the rows, these come after the
columns. -/
def place? (t : Table) (n : Sql.Name) : Option Nat :=
  match t.columns.findIdx? fun column => t.isNameOf column.name n with
  | some i => some i
  | none =>
    if !t.columns.isEmpty && rowNumberNames.any (t.isNameOf · n) then
      some (t.numberColumn?.getD t.columns.length)
    else
      none

/-- The table with the numbers of its rows after its columns. -/
def withRowNumbers (t : Table) : Table :=
  { t with
    columns := t.columns ++ [⟨"rowid", "INTEGER"⟩]
    rows := t.rows.map fun r => { r with cells := r.cells ++ [.integer r.number] } }

end Table

end KeyedRecords
