import KeyedRecords.Graph.Zone
import KeyedRecords.Proofs.Record.Inference
import KeyedRecords.Relational.Decoding

/-!
Rows of tables and nodes of graphs keep what their tags promise: where the vocabulary has a field
type for the tag of a field, the value is of that type. A cell of a row may also be empty, whereas
a property of a node that has a field type has a value. So the records made of them conform to the
schemas that are inferred from them.
-/

namespace KeyedRecords

/-! ## Fields that keep what their tags promise -/

namespace TaggedObject

variable {P : TaggedField → Prop} {o o' : TaggedObject}

/-- All fields of an object have a property. -/
def Every (P : TaggedField → Prop) (o : TaggedObject) : Prop :=
  ∀ name f, o.fields.get? name = some f → P f

theorem every_new (typeName : String) : (new typeName).Every P := by
  intro name f h
  cases h

theorem Every.setField (h : o.Every P) {name tag : String} {value : Value} (hf : P ⟨tag, value⟩) :
    (o.setField name tag value).Every P := by
  intro name' f hname
  rw [TaggedObject.setField, Keyed.get?_insert] at hname
  split at hname
  · cases hname
    exact hf
  · exact h name' f hname

/-- An object that is built field by field has the property if each added field has it. -/
theorem Every.foldlM {α : Type} {add : TaggedObject → α → Except LookupError TaggedObject}
    (hadd : ∀ {o x o'}, o.Every P → add o x = .ok o' → o'.Every P) {xs : List α} (h : o.Every P)
    (hxs : xs.foldlM add o = .ok o') : o'.Every P := by
  induction xs generalizing o with
  | nil =>
    cases hxs
    exact h
  | cons x rest ih =>
    rw [List.foldlM_cons] at hxs
    cases hx : add o x with
    | error e =>
      rw [hx] at hxs
      cases hxs
    | ok next =>
      rw [hx] at hxs
      exact ih (hadd h hx) hxs

end TaggedObject

/-- The value is null or of the type that the vocabulary has for the tag, if it has one. -/
def TaggedField.Fits (vocabulary : Vocabulary) (f : TaggedField) : Prop :=
  ∀ type, vocabulary f.tag = .ok type → f.value = .null ∨ f.value.fieldType? = some type

/-- The value is of the type that the vocabulary has for the tag, if it has one. -/
def TaggedField.Holds (vocabulary : Vocabulary) (f : TaggedField) : Prop :=
  ∀ type, vocabulary f.tag = .ok type → f.value.fieldType? = some type

theorem TaggedField.Holds.fits {vocabulary : Vocabulary} {f : TaggedField}
    (h : f.Holds vocabulary) : f.Fits vocabulary :=
  fun type htype => .inr (h type htype)

section Conforms

variable {vocabulary : Vocabulary} {allowed : Option (List String)} {o : TaggedObject}
  {schema : Schema} {name : String} {type : FieldType}

/-- A field of an inferred schema is a field of the object, and the vocabulary has its type. -/
theorem field_of_inferred (h : (inferSchema vocabulary allowed o.view).outcome = .ok schema)
    (hname : schema.fields.get? name = some type) :
    ∃ f, o.fields.get? name = some f ∧ vocabulary f.tag = .ok type ∧
      (Record.build o.view schema).get? name = some f.value := by
  have hmem : name ∈ schema.names := Keyed.mem_keys_iff.2 ⟨type, hname⟩
  obtain ⟨hlisted, -⟩ := List.mem_filter.1 ((Inference.mem_names_iff h).1 hmem)
  obtain ⟨f, hf⟩ := Keyed.mem_keys_iff.1 hlisted
  refine ⟨f, hf, ?_, ?_⟩
  · have htype := Inference.type_of_field h hname
    simpa [Inference.tagOf, TaggedObject.view, TaggedObject.tag?, hf] using htype
  · rw [Record.get?_build hmem]
    simp [TaggedObject.view, TaggedObject.value?, hf]

theorem conforms_of_fits (ho : o.Every (TaggedField.Fits vocabulary))
    (h : (inferSchema vocabulary allowed o.view).outcome = .ok schema) :
    (Record.build o.view schema).conforms := by
  refine List.all_eq_true.2 ?_
  rintro ⟨name, type⟩ hmem
  obtain ⟨f, hf, htag, hvalue⟩ := field_of_inferred h (Keyed.mem_pairs_iff.1 hmem)
  simp only [hvalue, Option.bind_some]
  rcases ho name f hf type htag with hnull | htype
  · rw [hnull]
    rfl
  · simp [htype]

/-- If no field is empty whose tag has a type, nothing in the record is null. -/
theorem ne_null_of_holds {v : Value} (ho : o.Every (TaggedField.Holds vocabulary))
    (h : (inferSchema vocabulary allowed o.view).outcome = .ok schema)
    (hv : (Record.build o.view schema).get? name = some v) : v ≠ .null := by
  have hmem : name ∈ schema.names := by
    rw [← Record.keys_build o.view]
    exact Keyed.mem_keys_iff.2 ⟨v, hv⟩
  obtain ⟨type, htype⟩ := Keyed.mem_keys_iff.1 hmem
  obtain ⟨f, hf, htag, hvalue⟩ := field_of_inferred h htype
  rw [hvalue] at hv
  cases hv
  intro hnull
  have htyped := ho name f hf type htag
  rw [hnull] at htyped
  cases htyped

end Conforms

/-! ## Rows -/

theorem exists_of_map_eq_ok {ε α β : Type} {found : Except ε α} {f : α → β} {b : β}
    (h : found.map f = .ok b) : ∃ a, f a = b := by
  cases found with
  | error e => cases h
  | ok a => exact ⟨a, Except.ok.inj h⟩

namespace ColumnType

/-- The field type of a column; binary columns, dates and times of day have none. -/
def fieldType? : ColumnType → Option FieldType
  | integer => some .long
  | real => some .double
  | text => some .string
  | boolean => some .boolean
  | datetime => some .timestamp
  | blob | date | time => none

theorem relationalType?_tag (type : ColumnType) :
    Vocabulary.relationalType? type.tag = type.fieldType? := by
  cases type <;> decide +kernel

/-- However cells are decoded, what they are decoded to is of the field type of the type. -/
theorem fieldType?_of_decode {type : ColumnType} {decoder : CellDecoder} {r : ResultCell}
    {v : Value} (h : type.decode decoder r = .ok v) :
    v = .null ∨ v.fieldType? = type.fieldType? := by
  cases type with
  | integer | real | text | boolean | datetime =>
    obtain ⟨a, rfl⟩ := exists_of_map_eq_ok h
    exact .inr rfl
  | blob | date | time => exact .inl (Except.ok.inj h).symm

end ColumnType

theorem ResultCell.fieldType?_of_value {decoder : CellDecoder} {r : ResultCell} {v : Value}
    (h : r.value decoder = .ok v) : v = .null ∨ v.fieldType? = r.type.fieldType? := by
  unfold ResultCell.value at h
  split at h
  · exact .inl (Except.ok.inj h).symm
  · exact ColumnType.fieldType?_of_decode h

/-- Of columns with one name only the last is left, with its own tag and value. -/
theorem every_rowObject {decoder : CellDecoder} {row : List ResultCell} {o : TaggedObject}
    (h : rowObject decoder row = .ok o) : o.Every (TaggedField.Fits .relational) := by
  refine (TaggedObject.every_new "row").foldlM ?_ h
  intro o r o' ho hadd
  unfold ResultCell.addTo at hadd
  split at hadd
  · next v hv =>
    cases hadd
    refine ho.setField fun type htype => ?_
    rw [Vocabulary.relational, Vocabulary.ofPartial_eq_ok_iff, ColumnType.relationalType?_tag]
      at htype
    rw [← htype]
    exact ResultCell.fieldType?_of_value hv
  · cases hadd

/-! ## Nodes -/

namespace Bolt

variable {clocks : ZoneClocks} {b : Bolt} {v : Value} {type : FieldType}

theorem boltType?_opaque (kind : OpaqueKind) : Vocabulary.boltType? kind.tag = none := by
  cases kind <;> decide +kernel

theorem fieldType?_of_value (h : b.value clocks = .ok v)
    (ht : Vocabulary.boltType? b.tag = some type) : v.fieldType? = some type := by
  cases b with
  | null | map members => cases ht
  | string s | integer n | float x | boolean b =>
    cases h
    exact ht
  | dateTime _ _ _ | localDateTime _ _ | dateTimeZoneId _ _ _ =>
    simp only [value] at h
    split at h
    · cases h
      exact ht
    · cases h
  | other kind =>
    rw [tag, boltType?_opaque] at ht
    cases ht

end Bolt

theorem Node.every_object {clocks : ZoneClocks} {scope : String} {n : Node} {o : TaggedObject}
    (h : n.object clocks scope = .ok o) : o.Every (TaggedField.Holds .bolt) := by
  refine (TaggedObject.every_new scope).foldlM ?_ h
  intro o p o' ho hadd
  unfold Node.addTo at hadd
  split at hadd
  · next v hv =>
    cases hadd
    refine ho.setField fun type htype => ?_
    exact Bolt.fieldType?_of_value hv (Vocabulary.ofPartial_eq_ok_iff.1 htype)
  · cases hadd

/-- The record of a row or of a node conforms to the schema that is inferred from it, whatever the
allowed fields are, and in the record of a node nothing is null. So it is however cells are decoded
and however the clocks of time zones are set. -/
theorem conforms_of_inferred :
    (∀ (decoder : CellDecoder) (row : List ResultCell) (o : TaggedObject)
      (allowed : Option (List String)) (schema : Schema), rowObject decoder row = .ok o →
      (inferSchema .relational allowed o.view).outcome = .ok schema →
      (Record.build o.view schema).conforms) ∧
    ∀ (clocks : ZoneClocks) (scope : String) (n : Node) (o : TaggedObject)
      (allowed : Option (List String)) (schema : Schema), n.object clocks scope = .ok o →
      (inferSchema .bolt allowed o.view).outcome = .ok schema →
      (Record.build o.view schema).conforms ∧
        ∀ name v, (Record.build o.view schema).get? name = some v → v ≠ .null := by
  constructor
  · intro decoder row o allowed schema ho hschema
    exact conforms_of_fits (every_rowObject ho) hschema
  · intro clocks scope n o allowed schema ho hschema
    have hholds : o.Every (TaggedField.Holds .bolt) := Node.every_object ho
    have hfits : o.Every (TaggedField.Fits .bolt) := fun name f hf => (hholds name f hf).fits
    exact ⟨conforms_of_fits hfits hschema, fun name v => ne_null_of_holds hholds hschema⟩

/-- The second column has the name of the first, and the third is empty. -/
def repeatedColumn : List ResultCell :=
  [⟨"a", some .integer, .integer 1⟩, ⟨"a", none, .text "x"⟩, ⟨"b", some .real, .null⟩]

/-- A property without a field type, and two that have one. -/
def mixedNode : Node :=
  (Keyed.empty.insert "tags" (.other .list)).insert "at" (.localDateTime 0 0)
    |>.insert "active" (.boolean true)

/-- What the node is turned into: the properties are taken in the order of their names. -/
def mixedObject : TaggedObject :=
  (TaggedObject.new "Event").setField "active" "Boolean" (.boolean true)
    |>.setField "at" "LocalDateTime" (.timestamp ⟨0, 0, by decide, by decide⟩)
    |>.setField "tags" "List" .null

theorem object_mixedNode : mixedNode.object .listed "Event" = .ok mixedObject := by
  have hsorted : mixedNode.sorted =
      [("active", .boolean true), ("at", .localDateTime 0 0), ("tags", .other .list)] := by
    simp [Node.sorted, mixedNode, Keyed.insert, Keyed.putIn, Keyed.empty, List.mergeSort]
  rw [Node.object, hsorted]
  rfl

theorem conforms_of_inferred_mixed :
    (∃ o schema, rowObject .byKind repeatedColumn = .ok o ∧
      (inferSchema .relational none o.view).outcome = .ok schema ∧
      schema.fields.pairs = [("a", .string), ("b", .double)] ∧
      (Record.build o.view schema).conforms) ∧
    ∃ o schema, mixedNode.object .listed "Event" = .ok o ∧
      (inferSchema .bolt (some ["at", "active"]) o.view).outcome = .ok schema ∧
      schema.fields.pairs = [("active", .boolean), ("at", .timestamp)] ∧
      (Record.build o.view schema).conforms ∧
      ∀ name v, (Record.build o.view schema).get? name = some v → v ≠ .null := by
  constructor
  · refine ⟨_, _, rfl, rfl, rfl, ?_⟩
    exact conforms_of_inferred.1 .byKind repeatedColumn _ none _ rfl rfl
  · refine ⟨mixedObject, _, object_mixedNode, rfl, rfl, ?_⟩
    exact conforms_of_inferred.2 .listed "Event" mixedNode mixedObject (some ["at", "active"]) _
      object_mixedNode rfl

end KeyedRecords
