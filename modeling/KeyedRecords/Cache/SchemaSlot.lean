import KeyedRecords.Inference

/-!
A place for one schema, which holds as long as lookups carry the same correlation token. All objects
seen under one token are taken to have one shape.
-/

namespace KeyedRecords

structure SchemaSlot where
  schema : Option Schema
  /-- The last token seen. -/
  token : Option String
  deriving DecidableEq

namespace SchemaSlot

def empty : SchemaSlot := ⟨none, none⟩

/-- Forgets the schema and the token. -/
def invalidate (_ : SchemaSlot) : SchemaSlot := empty

/-- The slot once a lookup with the given token has come. A lookup without a token changes
nothing. -/
def onToken (s : SchemaSlot) : Option String → SchemaSlot
  | none => s
  | some token => if s.token = some token then s else ⟨none, some token⟩

/-- The schema in the slot, or else the one inferred from an object, which then stays. -/
def resolve (s : SchemaSlot) (vocabulary : Vocabulary) (allowed : Option (List String))
    (token : Option String) (v : TaggedView) : Traced Schema × SchemaSlot :=
  let s := s.onToken token
  match s.schema with
  | some schema => (pure schema, s)
  | none =>
    let inferred := inferSchema vocabulary allowed v
    match inferred.outcome with
    | .ok schema => (inferred, { s with schema := some schema })
    | .error _ => (inferred, s)

section Resolve

variable {s : SchemaSlot} {vocabulary : Vocabulary} {allowed : Option (List String)}
  {token : Option String} {v : TaggedView} {schema : Schema}

theorem resolve_of_held (h : (s.onToken token).schema = some schema) :
    s.resolve vocabulary allowed token v = (pure schema, s.onToken token) := by
  simp only [resolve, h]

theorem resolve_of_empty (h : (s.onToken token).schema = none) :
    s.resolve vocabulary allowed token v =
      (inferSchema vocabulary allowed v,
        ⟨(inferSchema vocabulary allowed v).outcome.toOption, (s.onToken token).token⟩) := by
  cases hs : s.onToken token
  cases hi : (inferSchema vocabulary allowed v).outcome <;> simp_all [resolve, Except.toOption]

end Resolve

end SchemaSlot

end KeyedRecords
