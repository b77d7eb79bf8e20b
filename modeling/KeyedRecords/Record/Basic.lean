import KeyedRecords.Record.Object
import KeyedRecords.Record.Schema

/-!
Records: a schema and a value for each of its fields.
-/

namespace KeyedRecords

structure Record where
  schema : Schema
  values : Keyed String Value
  deriving DecidableEq

namespace Record

/-- Copies the value of each field of the schema, as it is; a field without a value is null. -/
def build (v : TaggedView) (schema : Schema) : Record :=
  ⟨schema, schema.fields.mapValues fun name _ => (v.value? name).getD .null⟩

def get? (r : Record) (name : String) : Option Value := r.values.get? name

/-- The order of the values does not matter. -/
def sameAs (a b : Record) : Bool := a.schema == b.schema && a.values.sameAs b.values

/-- Whether each value that is there and not null has the type of its field. -/
def conforms (r : Record) : Bool :=
  r.schema.fields.pairs.all fun (name, type) =>
    match (r.get? name).bind Value.fieldType? with
    | some actual => actual == type
    | none => true

/-- One member for each field of the schema, by name. -/
def members (r : Record) : List (String × Json) :=
  let members := r.schema.names.map fun name => (name, ((r.get? name).getD .null).json)
  members.mergeSort fun a b => a.1 ≤ b.1

def json (r : Record) : Json := .object r.members

@[simp] theorem schema_build (v : TaggedView) (s : Schema) : (build v s).schema = s := rfl

theorem keys_build (v : TaggedView) (s : Schema) : (build v s).values.keys = s.names :=
  Keyed.keys_mapValues s.fields _

end Record

end KeyedRecords
