import KeyedRecords.Cache.SchemaSlot
import KeyedRecords.Proofs.Record.Inference

/-!
Inference looks at nothing but the shape of an object: the names of its fields in their order, and
their tags. So if tokens tell shapes apart, the schema that a slot keeps for a token is the one that
any object seen under the token would have had inferred (`SchemaSlot.Explained.resolve_eq`).
-/

namespace KeyedRecords

/-- The fields with their tags, in the store's order. -/
def TaggedObject.shape (o : TaggedObject) : List (String × String) :=
  o.fields.pairs.map fun p => (p.1, p.2.tag)

namespace TaggedObject

variable {o o' : TaggedObject}

theorem names_eq_map_shape (o : TaggedObject) : o.names = o.shape.map (·.1) :=
  (Keyed.keys_pairs_map o.fields.pairs fun _ f => f.tag).symm

theorem tag?_eq_valueIn_shape (o : TaggedObject) (name : String) :
    o.tag? name = Keyed.valueIn name o.shape :=
  (Keyed.valueIn_map name o.fields.pairs fun _ f => f.tag).symm

theorem names_eq_of_shape_eq (h : o.shape = o'.shape) : o.names = o'.names := by
  rw [names_eq_map_shape, h, names_eq_map_shape]

theorem tag?_eq_of_shape_eq (h : o.shape = o'.shape) : o.tag? = o'.tag? := by
  funext name
  rw [tag?_eq_valueIn_shape, h, tag?_eq_valueIn_shape]

end TaggedObject

section Inference

variable {vocabulary : Vocabulary} {allowed : Option (List String)}

theorem inferSchema_eq_of_shape_eq {o o' : TaggedObject} (h : o.shape = o'.shape) :
    inferSchema vocabulary allowed o.view = inferSchema vocabulary allowed o'.view := by
  have hnames : Inference.retainedNames allowed o.view = Inference.retainedNames allowed o'.view :=
    congrArg (List.filter _) (TaggedObject.names_eq_of_shape_eq h)
  refine Inference.inferSchema_congr hnames fun name _ => ?_
  exact congrArg (fun tag? => (tag? name).getD "") (TaggedObject.tag?_eq_of_shape_eq h)

end Inference

/-- Objects with the tokens of the lookups that saw them. -/
abbrev Sightings := List (Option String × TaggedObject)

/-- Every lookup carries a token, and what is seen under one token has one shape. -/
structure Sightings.TellShapes (seen : Sightings) : Prop where
  carried : ∀ p ∈ seen, p.1.isSome
  alike : ∀ p ∈ seen, ∀ q ∈ seen, p.1 = q.1 → p.2.shape = q.2.shape

theorem Sightings.TellShapes.of_subset {seen seen' : Sightings} (h : seen'.TellShapes)
    (hs : seen ⊆ seen') : seen.TellShapes where
  carried p hp := h.carried p (hs hp)
  alike p hp q hq := h.alike p (hs hp) q (hs hq)

namespace SchemaSlot

variable {slot : SchemaSlot} {vocabulary : Vocabulary} {allowed : Option (List String)}
  {seen seen' : Sightings} {token : String} {o : TaggedObject}

/-- Everything that a lookup with a token can find in a slot: the schema kept for the token, or none
to use, and then what inference gives is kept. -/
theorem resolve_cases (slot : SchemaSlot) (vocabulary : Vocabulary)
    (allowed : Option (List String)) (token : String) (v : TaggedView) :
    (∃ schema, slot = ⟨some schema, some token⟩ ∧
      slot.resolve vocabulary allowed (some token) v = (pure schema, slot)) ∨
    slot.resolve vocabulary allowed (some token) v =
      (inferSchema vocabulary allowed v,
        ⟨(inferSchema vocabulary allowed v).outcome.toOption, some token⟩) := by
  have hinfer (h : slot.onToken (some token) = ⟨none, some token⟩) :
      slot.resolve vocabulary allowed (some token) v =
        (inferSchema vocabulary allowed v,
          ⟨(inferSchema vocabulary allowed v).outcome.toOption, some token⟩) := by
    rw [resolve_of_empty (congrArg schema h), h]
  by_cases ht : slot.token = some token
  · have hon : slot.onToken (some token) = slot := by simp [onToken, ht]
    obtain ⟨_ | schema, last⟩ := slot <;> cases ht
    · exact .inr (hinfer hon)
    · exact .inl ⟨schema, rfl, by simp [resolve, hon]⟩
  · exact .inr (hinfer (by simp [onToken, ht]))

/-- The schema in the slot was inferred from an object that was seen under the slot's token. -/
def Explained (slot : SchemaSlot) (vocabulary : Vocabulary) (allowed : Option (List String))
    (seen : Sightings) : Prop :=
  ∀ schema, slot.schema = some schema → ∃ o, (slot.token, o) ∈ seen ∧
    (inferSchema vocabulary allowed o.view).outcome = .ok schema

theorem explained_empty : empty.Explained vocabulary allowed seen := nofun

namespace Explained

theorem of_subset (h : slot.Explained vocabulary allowed seen) (hs : seen ⊆ seen') :
    slot.Explained vocabulary allowed seen' := fun schema hschema =>
  let ⟨o, ho, hi⟩ := h schema hschema
  ⟨o, hs ho, hi⟩

theorem resolve (h : slot.Explained vocabulary allowed seen) (ho : (some token, o) ∈ seen) :
    (slot.resolve vocabulary allowed (some token) o.view).2.Explained vocabulary allowed seen := by
  obtain ⟨schema, -, hr⟩ | hr := slot.resolve_cases vocabulary allowed token o.view <;> rw [hr]
  · exact h
  · intro schema hschema
    refine ⟨o, ho, ?_⟩
    cases hi : (inferSchema vocabulary allowed o.view).outcome <;>
      simp_all [Except.toOption]

/-- With tokens that tell shapes apart, a lookup gets the schema that is inferred from its own
object, or the same failure. -/
theorem resolve_eq (h : slot.Explained vocabulary allowed seen) (hseen : seen.TellShapes)
    (ho : (some token, o) ∈ seen) :
    (slot.resolve vocabulary allowed (some token) o.view).1.outcome =
      (inferSchema vocabulary allowed o.view).outcome := by
  obtain ⟨schema, rfl, hr⟩ | hr := slot.resolve_cases vocabulary allowed token o.view <;> rw [hr]
  obtain ⟨o', ho', hi⟩ := h schema rfl
  have hshape : o'.shape = o.shape := hseen.alike _ ho' _ ho rfl
  rw [← inferSchema_eq_of_shape_eq hshape, hi]
  rfl

end Explained
end SchemaSlot
end KeyedRecords
