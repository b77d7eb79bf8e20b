import KeyedRecords.Relational.Scan
import KeyedRecords.Relational.Tables
import KeyedRecords.Store.Contract

/-!
Statements of lookups, run on tables: the first row that meets all conditions.
-/

namespace KeyedRecords

/-- Where the cells of a term come from. -/
inductive Place where
  | column (i : Nat)
  /-- The arguments are counted from zero. -/
  | argument (i : Nat)
  | constant (cell : Cell)
  deriving DecidableEq

namespace Place

/-- The cell at a place of a row. A missing argument is null. -/
def cell (args : List Cell) (row : Row) : Place → Cell
  | column i => row.cell i
  | argument i => args[i]?.getD .null
  | constant c => c

/-- The column at a place, if there is one. -/
def column? (t : Table) : Place → Option Column
  | column i => t.columns[i]?
  | argument _ | constant _ => none

/-- Where the column at a place stands among those of its table, if there is one. -/
def index? : Place → Option Nat
  | column i => some i
  | argument _ | constant _ => none

end Place

/-- A selected column. -/
structure Selected where
  place : Place
  /-- The term as it is written. -/
  text : String
  label : Option String
  deriving DecidableEq

/-- Two places whose cells have to be equal. -/
structure Comparison where
  left : Place
  right : Place
  affinity : Affinity
  collation : Collation
  deriving DecidableEq

namespace Comparison

/-- The columns tell what the cells are compared as. The collation is that of the left one, if both
are columns. -/
def ofPlaces (t : Table) (left right : Place) : Comparison :=
  let columns := (left.column? t, right.column? t)
  { left, right
    affinity := .shared (columns.1.map (·.affinity)) (columns.2.map (·.affinity))
    collation := ((columns.1 <|> columns.2).map (·.declaration.collation)).getD .binary }

def holds (args : List Cell) (row : Row) (c : Comparison) : Bool :=
  (c.affinity.compared (c.left.cell args row)).matches? c.collation
    (c.affinity.compared (c.right.cell args row))

end Comparison

namespace Table

/-- The place that a name stands for: a column, or else the first selected column with that name as
its label. -/
def named? (t : Table) (selected : List Selected) (n : Sql.Name) : Option Place :=
  match t.place? n with
  | some i => some (.column i)
  | none =>
    if n.path.isEmpty then
      (selected.find? fun s => s.label.any (Sql.sameName n.last)).map (·.place)
    else
      none

/-- The place of a term, and the number of arguments up to it, of which `taken` come before. No cell
is equal to the time, as little as to null. -/
def place (t : Table) (selected : List Selected) (taken : Nat) :
    Sql.Term → Except DatabaseFault (Place × Nat)
  | .parameter => .ok (.argument taken, taken + 1)
  | .literal c => .ok (.constant c, taken)
  | .clock => .ok (.constant .null, taken)
  | .column n otherwise =>
    match t.named? selected n <|> otherwise.map .constant with
    | some place => .ok (place, taken)
    | none => .error (.noSuchColumn n.text)

/-- All columns, in their order. -/
def allItems (t : Table) : List Sql.Item :=
  t.columns.map fun c => .term (.column ⟨[], c.name⟩ none) c.name none

/-- The terms that an item stands for. -/
def expand (t : Table) : Sql.Item → Except DatabaseFault (List Sql.Item)
  | .all => .ok t.allItems
  | .allOf name => if Sql.sameName name t.name then .ok t.allItems else .error (.noSuchTable name)
  | item => .ok [item]

/-- The selected columns, and the number of arguments up to them. -/
def select (t : Table) (taken : Nat) : List Sql.Item → Except DatabaseFault (List Selected × Nat)
  | [] => .ok ([], taken)
  | .term term text label :: rest => do
    let (place, taken) ← t.place [] taken term
    let (others, taken) ← t.select taken rest
    pure (⟨place, text, label⟩ :: others, taken)
  | _ :: rest => t.select taken rest

def compare (t : Table) (selected : List Selected) (taken : Nat) :
    List Sql.Condition → Except DatabaseFault (List Comparison)
  | [] => .ok []
  | c :: rest => do
    let (left, taken) ← t.place selected taken c.left
    let (right, taken) ← t.place selected taken c.right
    let others ← t.compare selected taken rest
    pure (.ofPlaces t.withRowNumbers left right :: others)

/-- The result column that a selected column shows of a row. A column is shown under its own name,
and other terms as they are written. -/
def resultCell (t : Table) (args : List Cell) (row : Row) (s : Selected) : ResultCell :=
  let column := s.place.column? t
  { name := s.label.getD ((column.map (·.name)).getD s.text)
    declared := column.bind fun c => ColumnType.ofDeclared? c.type
    cell := s.place.cell args row }

/-- A table without columns, which has one row. -/
def unit : Table := ⟨"", [], [⟨1, []⟩]⟩

end Table

/-- More result columns than this are not selected. -/
def maxSelected : Nat := 2000

namespace Tables

/-- The first row that a statement finds. The table is looked for first, then the columns that are
selected, then those that are compared. -/
def firstRow (d : Tables) (s : Sql.Select) (args : List Cell) :
    Except DatabaseFault (Option (List ResultCell)) := do
  let t ← match s.origin with
    | none => pure Table.unit
    | some origin =>
      match d.find? origin.table with
      | some t => pure { t with name := origin.label.getD t.name }
      | none => throw (.noSuchTable origin.table.text)
  let items := (← s.items.mapM t.expand).flatten
  if maxSelected < items.length then throw (.grammar .tooManyColumns)
  let (selected, taken) ← t.select 0 items
  let comparisons ← t.compare selected taken s.conditions
  let places := selected.map (·.place) ++ comparisons.flatMap fun c => [c.left, c.right]
  let t := (t.scan (places.filterMap Place.index?)).withRowNumbers
  pure <| (t.rows.find? fun row => comparisons.all (·.holds args row)).map fun row =>
    selected.map (t.resultCell args row)

end Tables

/-- A statement and the arguments bound so far. -/
structure TableStatement where
  text : String
  arguments : List Value := []
  deriving DecidableEq

namespace TableStatement

/-- Slots are bound one after the other, from the first. -/
def bind (st : TableStatement) (slot : Nat) (v : Value) : Except LookupError TableStatement :=
  let expected := st.arguments.length + 1
  if slot = expected then .ok { st with arguments := st.arguments ++ [v] }
  else .error (.argument slot (.outOfOrder expected))

/-- The first row as an object. -/
def fetchFirst (decoder : CellDecoder) (d : Tables) (st : TableStatement) :
    Except LookupError (Option TaggedObject) := do
  d.ping
  let row := do
    let s ← (Sql.Select.parse st.text).mapError DatabaseFault.grammar
    d.firstRow s (st.arguments.map Cell.ofValue)
  match ← row.mapError LookupError.database with
  | some row => some <$> rowObject decoder row
  | none => pure none

end TableStatement

/-- The tables as a database. -/
def Tables.database (decoder : CellDecoder) (d : Tables) : Database TableStatement where
  ping := d.ping
  vocabulary := .relational
  prepare text := .ok { text }
  bind := TableStatement.bind
  fetchFirst := TableStatement.fetchFirst decoder d

end KeyedRecords
