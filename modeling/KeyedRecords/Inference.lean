import KeyedRecords.Call
import KeyedRecords.Record.Basic
import KeyedRecords.Vocabulary

/-!
Schema inference: the schema of an object from the tags of its fields. One tag without a field type
fails the whole schema.
-/

namespace KeyedRecords

namespace Inference

/-- The name that stores reserve for the reference from an inner object to the object around it. -/
def backReference : String := "this$0"

/-- Whether a field takes part: it is no back reference and is among the allowed ones, if only some
are. -/
def isRetained (allowed : Option (List String)) (name : String) : Bool :=
  name != backReference && match allowed with
    | some names => names.contains name
    | none => true

/-- The tag of a field; one that has none counts as having the empty tag. -/
def tagOf (v : TaggedView) (name : String) : String := (v.tag? name).getD ""

/-- Adds the name of the field to a failure that lacks it. -/
def withField (name : String) : LookupError → LookupError
  | .unsupportedType tag _ => .unsupportedType tag (some name)
  | e => e

def fieldType (vocabulary : Vocabulary) (v : TaggedView) (name : String) : Traced FieldType :=
  let tag := tagOf v name
  (Traced.call (.map tag) (vocabulary tag)).mapError (withField name)

/-- The fields in the store's order, each with its type. -/
def fields (vocabulary : Vocabulary) (v : TaggedView) :
    List String → Traced (List (String × FieldType))
  | [] => pure []
  | name :: rest => do
    let type ← fieldType vocabulary v name
    let others ← fields vocabulary v rest
    pure ((name, type) :: others)

def retainedNames (allowed : Option (List String)) (v : TaggedView) : List String :=
  v.names.filter (isRetained allowed)

end Inference

/-- The schema of an object, restricted to the allowed names if there are any. -/
def inferSchema (vocabulary : Vocabulary) (allowed : Option (List String)) (v : TaggedView) :
    Traced Schema := do
  let fields ← Inference.fields vocabulary v (Inference.retainedNames allowed v)
  pure (.ofFields fields)

/-- The record of an object under its own schema. -/
def inferRecord (vocabulary : Vocabulary) (allowed : Option (List String)) (v : TaggedView) :
    Traced Record := do
  let schema ← inferSchema vocabulary allowed v
  pure (.build v schema)

end KeyedRecords
