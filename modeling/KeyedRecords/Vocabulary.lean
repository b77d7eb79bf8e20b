import KeyedRecords.LookupError
import KeyedRecords.Record.FieldType

/-!
Vocabularies: the type tags that a store puts on its objects, and the field types they stand for.
-/

namespace KeyedRecords

abbrev Vocabulary := String → Except LookupError FieldType

namespace Vocabulary

/-- Fails on a tag without a type; which field carries the tag is not known here. -/
def ofPartial (type? : String → Option FieldType) : Vocabulary := fun tag =>
  match type? tag with
  | some t => .ok t
  | none => .error (.unsupportedType tag none)

theorem ofPartial_eq_ok_iff {type? : String → Option FieldType} {tag : String} {t : FieldType} :
    ofPartial type? tag = .ok t ↔ type? tag = some t := by
  unfold ofPartial
  split <;> simp_all

/-- The tags that are the names of the field types. -/
def canonical : Vocabulary := ofPartial FieldType.ofTag?

def relationalType? (tag : String) : Option FieldType :=
  match Text.upper (Text.trim tag) with
  | "TEXT" => some .string
  | "INTEGER" => some .long
  | "REAL" => some .double
  | "BOOLEAN" => some .boolean
  | "DATETIME" => some .timestamp
  | _ => none

/-- The tags of table columns. Binary columns, dates and times of day have no field type. -/
def relational : Vocabulary := ofPartial relationalType?

def boltType? : String → Option FieldType
  | "String" => some .string
  | "Integer" => some .long
  | "Float" => some .double
  | "Boolean" => some .boolean
  | "DateTime" | "LocalDateTime" | "DateTimeZoneId" => some .timestamp
  | _ => none

/-- The tags of node properties, in their exact case. -/
def bolt : Vocabulary := ofPartial boltType?

end Vocabulary

end KeyedRecords
