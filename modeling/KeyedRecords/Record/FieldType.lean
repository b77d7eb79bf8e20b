import KeyedRecords.Text.Blank
import KeyedRecords.Text.Case

/-!
The types of record fields, which every store's own types are mapped to.
-/

namespace KeyedRecords

inductive FieldType where
  | string
  | long
  | int
  | boolean
  | double
  | timestamp
  | byte
  deriving DecidableEq

namespace FieldType

def all : List FieldType := [string, long, int, boolean, double, timestamp, byte]

theorem mem_all (t : FieldType) : t ∈ all := by cases t <;> decide

def name : FieldType → String
  | string => "string"
  | long => "long"
  | int => "int"
  | boolean => "boolean"
  | double => "double"
  | timestamp => "timestamp"
  | byte => "byte"

/-- The name in serialized schemas. -/
def code : FieldType → String
  | string => "STRING"
  | long => "LONG"
  | int => "INT"
  | boolean => "BOOLEAN"
  | double => "DOUBLE"
  | timestamp => "TIMESTAMP"
  | byte => "BYTE"

def ofName? (s : String) : Option FieldType := all.find? (·.name == s)

theorem ofName?_name (t : FieldType) : ofName? t.name = some t := by cases t <;> decide

/-- Case and surrounding white space do not matter. -/
def ofTag? (tag : String) : Option FieldType := ofName? (Text.lower (Text.trim tag))

end FieldType

end KeyedRecords
