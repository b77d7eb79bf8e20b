import KeyedRecords.Keyed
import KeyedRecords.Json
import KeyedRecords.Record.FieldType

/-!
Record schemas: named and typed fields in order, no name twice.
-/

namespace KeyedRecords

structure Schema where
  fields : Keyed String FieldType
  deriving DecidableEq

namespace Schema

/-- Of two fields with one name the first is kept. -/
def ofFields (fields : List (String × FieldType)) : Schema := ⟨.ofFirst fields⟩

def names (s : Schema) : List String := s.fields.keys

def type? (s : Schema) (name : String) : Option FieldType := s.fields.get? name

def size (s : Schema) : Nat := s.fields.size

def isEmpty (s : Schema) : Bool := s.fields.isEmpty

def text (s : Schema) : String :=
  "[" ++ ", ".intercalate (s.fields.pairs.map fun f => f.1 ++ ": " ++ f.2.name) ++ "]"

def json (s : Schema) : Json :=
  .object [("fields", .array (s.fields.pairs.map fun f =>
    .object [("name", .string f.1), ("field_type", .string f.2.code)]))]

end Schema

end KeyedRecords
