import KeyedRecords.Keyed
import KeyedRecords.Record.Value

/-!
Objects as stores return them: fields whose types are only known by the tags that the store puts on
them.
-/

namespace KeyedRecords

/-- What can be asked of an object of a store. Its parts need not agree: a name may be listed twice,
have no tag, or have no value. -/
structure TaggedView where
  typeName : String
  /-- The field names in the store's order. -/
  names : List String
  tag? : String → Option String
  value? : String → Option Value

structure TaggedField where
  tag : String
  value : Value
  deriving DecidableEq

/-- An object whose fields all have a tag and a value. -/
structure TaggedObject where
  typeName : String
  fields : Keyed String TaggedField
  deriving DecidableEq

namespace TaggedObject

def new (typeName : String) : TaggedObject := ⟨typeName, .empty⟩

/-- A field that is there already keeps its place and takes the new tag and value. -/
def setField (o : TaggedObject) (name tag : String) (value : Value) : TaggedObject :=
  { o with fields := o.fields.insert name ⟨tag, value⟩ }

def names (o : TaggedObject) : List String := o.fields.keys

def tag? (o : TaggedObject) (name : String) : Option String := (o.fields.get? name).map (·.tag)

def value? (o : TaggedObject) (name : String) : Option Value :=
  (o.fields.get? name).map (·.value)

def size (o : TaggedObject) : Nat := o.fields.size

def isEmpty (o : TaggedObject) : Bool := o.fields.isEmpty

def view (o : TaggedObject) : TaggedView where
  typeName := o.typeName
  names := o.names
  tag? := o.tag?
  value? := o.value?

@[simp] theorem tag?_setField (o : TaggedObject) (name tag other : String) (value : Value) :
    (o.setField name tag value).tag? other = if name = other then some tag else o.tag? other := by
  simp only [tag?, setField, Keyed.get?_insert]
  split <;> rfl

@[simp] theorem value?_setField (o : TaggedObject) (name tag other : String) (value : Value) :
    (o.setField name tag value).value? other =
      if name = other then some value else o.value? other := by
  simp only [value?, setField, Keyed.get?_insert]
  split <;> rfl

theorem names_setField (o : TaggedObject) (name tag : String) (value : Value) :
    (o.setField name tag value).names = if name ∈ o.names then o.names else o.names ++ [name] :=
  Keyed.keys_insert o.fields name ⟨tag, value⟩

end TaggedObject

end KeyedRecords
