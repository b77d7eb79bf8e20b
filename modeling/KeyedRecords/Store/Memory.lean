import KeyedRecords.Store.Contract

/-!
Stores kept in memory. They can be told to fail, and serve to try services out.
-/

namespace KeyedRecords

/-- Fails with the fault, if there is one. -/
def failing {α : Type} (fault : Option LookupError) (outcome : Except LookupError α) :
    Except LookupError α :=
  match fault with
  | some e => .error e
  | none => outcome

/-- The canonical vocabulary, but the tag `offline` makes it fail. -/
def Vocabulary.unreliable : Vocabulary := fun tag =>
  if tag = "offline" then .error (.store (.said "mapper offline")) else canonical tag

/-- Objects by scope and key, and the keys that every query finds. -/
structure MemoryStore where
  objects : Keyed (String × Value) TaggedObject := .empty
  found : List Value := []
  pingFault : Option LookupError := none
  getFault : Option LookupError := none
  queryFault : Option LookupError := none

namespace MemoryStore

def insert (s : MemoryStore) (scope : String) (key : Value) (o : TaggedObject) : MemoryStore :=
  { s with objects := s.objects.insert (scope, key) o }

/-- Tells whether there was an object to delete. -/
def delete (s : MemoryStore) (scope : String) (key : Value) : Bool × MemoryStore :=
  (s.objects.contains (scope, key), { s with objects := s.objects.erase (scope, key) })

def store (vocabulary : Vocabulary) (dialect : Dialect) : ObjectStore MemoryStore where
  ping s := (failing s.pingFault (.ok ()), s)
  vocabulary
  dialect
  get s scope key := (failing s.getFault (.ok (s.objects.get? (scope, key))), s)
  queryKeys s _ _ _ := (failing s.queryFault (.ok s.found), s)

end MemoryStore

/-- A database that answers every statement with the same row, or with none. -/
structure MemoryDatabase where
  row : Option TaggedObject := none
  pingFault : Option LookupError := none
  prepareFault : Option LookupError := none
  bindFaults : Keyed Nat LookupError := .empty
  fetchFault : Option LookupError := none

def MemoryDatabase.database (d : MemoryDatabase) (vocabulary : Vocabulary) : Database Unit where
  ping := failing d.pingFault (.ok ())
  vocabulary
  prepare _ := failing d.prepareFault (.ok ())
  bind _ slot _ := failing (d.bindFaults.get? slot) (.ok ())
  fetchFirst _ := failing d.fetchFault (.ok d.row)

/-- The name of a value's type. -/
def Value.typeName (v : Value) : String := (v.fieldType?.map (·.name)).getD "null"

/-- A statement that remembers what is bound to its slots and refuses values of some types. -/
structure SlotRecorder where
  refused : List String
  slots : List (Nat × Value) := []

def SlotRecorder.bind (st : SlotRecorder) (slot : Nat) (v : Value) :
    Except LookupError SlotRecorder :=
  if st.refused.contains v.typeName then
    .error (.argument slot (.said (v.typeName ++ " is not supported")))
  else
    .ok { st with slots := st.slots ++ [(slot, v)] }

end KeyedRecords
