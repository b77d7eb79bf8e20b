import KeyedRecords.LookupError
import KeyedRecords.Record.Object
import KeyedRecords.Relational.Affinity

/-!
Columns of result rows: the type that a column was declared with, what its cells are decoded to for
it, and the object that a row becomes. The decoding itself is left to the driver of the database.
-/

namespace KeyedRecords

inductive ColumnType where
  | integer
  | real
  | text
  | blob
  | boolean
  | date
  | time
  | datetime
  deriving DecidableEq

namespace ColumnType

def tag : ColumnType → String
  | integer => "INTEGER"
  | real => "REAL"
  | text => "TEXT"
  | blob => "BLOB"
  | boolean => "BOOLEAN"
  | date => "DATE"
  | time => "TIME"
  | datetime => "DATETIME"

/-- The type that a declaration stands for; some declarations stand for none. -/
def ofDeclared? (declared : String) : Option ColumnType :=
  let has := containsWord declared
  match declared.toLower with
  | "int4" | "int8" => some integer
  | "boolean" | "bool" => some boolean
  | "date" => some date
  | "time" => some time
  | "datetime" | "timestamp" => some datetime
  | _ =>
    if has "int" then some integer
    else if has "char" || has "clob" || has "text" then some text
    else if has "blob" then some blob
    else if has "real" || has "floa" || has "doub" then some real
    else none

/-- The type of the cell itself. A null in a column without a type counts as text. -/
def ofCell : Cell → ColumnType
  | .integer _ => integer
  | .real _ => real
  | .text _ => text
  | .blob _ => blob
  | .null => text

end ColumnType

/-- One column of a result row. -/
structure ResultCell where
  name : String
  /-- The type of the column, if it has one. -/
  declared : Option ColumnType
  cell : Cell
  deriving DecidableEq

/-- How the driver of a database decodes cells that are not null: what it gives if it is asked for
one of these types, or its fault. The tables leave it open. -/
structure CellDecoder where
  text (r : ResultCell) : Except DatabaseFault String
  integer (r : ResultCell) : Except DatabaseFault Int64
  real (r : ResultCell) : Except DatabaseFault Double
  boolean (r : ResultCell) : Except DatabaseFault Bool
  instant (r : ResultCell) : Except DatabaseFault Instant

/-- What a cell is decoded to for a type; types without a field type give null. -/
def ColumnType.decode (decoder : CellDecoder) (r : ResultCell) :
    ColumnType → Except DatabaseFault Value
  | text => (decoder.text r).map .string
  | integer => (decoder.integer r).map .long
  | real => (decoder.real r).map .double
  | boolean => (decoder.boolean r).map .boolean
  | datetime => (decoder.instant r).map .timestamp
  | blob | date | time => .ok .null

namespace ResultCell

/-- Without a declared type the cell's own type counts. -/
def type (r : ResultCell) : ColumnType := r.declared.getD (.ofCell r.cell)

/-- An empty cell is null, whatever its type. -/
def value (decoder : CellDecoder) (r : ResultCell) : Except DatabaseFault Value :=
  match r.cell with
  | .null => .ok .null
  | _ => r.type.decode decoder r

def addTo (decoder : CellDecoder) (o : TaggedObject) (r : ResultCell) :
    Except LookupError TaggedObject :=
  match r.value decoder with
  | .ok v => .ok (o.setField r.name r.type.tag v)
  | .error fault => .error (.database fault)

end ResultCell

/-- A row as an object, its columns tagged with their types. Of two columns with one name the later
wins. -/
def rowObject (decoder : CellDecoder) (row : List ResultCell) : Except LookupError TaggedObject :=
  row.foldlM (ResultCell.addTo decoder) (.new "row")

end KeyedRecords
