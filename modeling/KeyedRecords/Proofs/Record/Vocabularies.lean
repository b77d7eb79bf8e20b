import KeyedRecords.Proofs.Text.Case
import KeyedRecords.Vocabulary

/-!
What the vocabularies accept. Field types are named in any ASCII case, and property kinds in their
exact case only. The names of column types are accepted in any ASCII case too, but what is compared
with them is the upper case of a tag, and so a dotless i passes for an i (`mapsAs`).
-/

namespace KeyedRecords

namespace FieldType

variable {s : String} {t : FieldType}

theorem ofName?_eq_some_iff : ofName? s = some t ↔ t.name = s := by
  constructor
  · intro h
    simpa using List.find?_some h
  · rintro rfl
    exact ofName?_name t

theorem name_asciiBut (t : FieldType) : ∀ c ∈ t.name.toList, Text.AsciiBut ['k'] c := by
  have h : t.name.toList.all (fun c => decide (Text.AsciiBut ['k'] c)) = true := by
    cases t <;> decide
  simpa only [List.all_eq_true, decide_eq_true_eq] using h

/-- Only the case of ASCII letters is ignored. -/
theorem ofTag?_eq_some_iff : ofTag? s = some t ↔ (Text.trim s).toLower = t.name := by
  rw [ofTag?, ofName?_eq_some_iff, eq_comm, Text.lower_eq_iff (name_asciiBut t)]

end FieldType

namespace Vocabulary

variable {type? : String → Option FieldType} {accepts accepts' : FieldType → Prop} {tag : String}
  {t : FieldType}

/-- The vocabulary has the accepted type for the tag. If none is accepted, the tag is reported as it
is, without a field. -/
structure MapsAs (v : Vocabulary) (tag : String) (accepts : FieldType → Prop) : Prop where
  ok_iff : ∀ t, v tag = .ok t ↔ accepts t
  error_iff : ∀ e, v tag = .error e ↔ e = .unsupportedType tag none ∧ ∀ t, ¬accepts t

theorem MapsAs.congr {v : Vocabulary} (h : v.MapsAs tag accepts)
    (hiff : ∀ t, accepts t ↔ accepts' t) : v.MapsAs tag accepts' where
  ok_iff t := (h.ok_iff t).trans (hiff t)
  error_iff e := by
    simp only [← hiff]
    exact h.error_iff e

theorem mapsAs_ofPartial (h : ∀ t, type? tag = some t ↔ accepts t) :
    (ofPartial type?).MapsAs tag accepts where
  ok_iff t := ofPartial_eq_ok_iff.trans (h t)
  error_iff e := by
    cases htype : type? tag with
    | none =>
      have hnot : ∀ t, ¬accepts t := fun t ht => by
        rw [(h t).2 ht] at htype
        cases htype
      simp [ofPartial, htype, hnot, eq_comm]
    | some t =>
      have ht : accepts t := (h t).1 htype
      simp only [ofPartial, htype, reduceCtorEq, false_iff, not_and, not_forall, not_not]
      exact fun _ => ⟨t, ht⟩

/-! ## The names -/

def canonicalNames : List (String × FieldType) :=
  [("string", .string), ("long", .long), ("int", .int), ("boolean", .boolean),
    ("double", .double), ("timestamp", .timestamp), ("byte", .byte)]

def relationalNames : List (String × FieldType) :=
  [("TEXT", .string), ("INTEGER", .long), ("REAL", .double), ("BOOLEAN", .boolean),
    ("DATETIME", .timestamp)]

def boltNames : List (String × FieldType) :=
  [("String", .string), ("Integer", .long), ("Float", .double), ("Boolean", .boolean),
    ("DateTime", .timestamp), ("LocalDateTime", .timestamp), ("DateTimeZoneId", .timestamp)]

theorem mem_canonicalNames_iff : (tag, t) ∈ canonicalNames ↔ tag = t.name := by
  cases t <;> simp [canonicalNames, FieldType.name]

theorem relationalType?_eq_some_iff :
    relationalType? tag = some t ↔ (Text.upper (Text.trim tag), t) ∈ relationalNames := by
  unfold relationalType?
  generalize Text.upper (Text.trim tag) = word
  split <;> simp_all [relationalNames, eq_comm]

theorem boltType?_eq_some_iff : boltType? tag = some t ↔ (tag, t) ∈ boltNames := by
  unfold boltType?
  split <;> simp_all [boltNames, eq_comm]

theorem relationalNames_asciiBut :
    ∀ p ∈ relationalNames, ∀ c ∈ p.1.toList, Text.AsciiBut ['F', 'S'] c := by
  have h : relationalNames.all (fun p =>
      p.1.toList.all fun c => decide (Text.AsciiBut ['F', 'S'] c)) = true := by
    decide
  simpa only [List.all_eq_true, decide_eq_true_eq] using h

theorem mem_relationalNames_iff {s : String} : (Text.upper s, t) ∈ relationalNames ↔
    ((s.map Text.dotted).toUpper, t) ∈ relationalNames := by
  constructor <;> intro h
  · rwa [(Text.upper_eq_iff (relationalNames_asciiBut _ h)).1 rfl]
  · rwa [(Text.upper_eq_iff (relationalNames_asciiBut _ h)).2 rfl]

/-- No name has a dotless i, not even in lower case. -/
theorem not_mem_relationalNames_of_dotless {s : String} (h : 'ı' ∈ s.toList) :
    (s.toUpper, t) ∉ relationalNames := by
  intro hmem
  have hupper : s.toUpper.toList = s.toList.map Char.toUpper := String.toList_map
  have hdotless : 'ı' ∈ s.toUpper.toList := hupper ▸ List.mem_map.2 ⟨'ı', h, by decide⟩
  exact absurd (relationalNames_asciiBut _ hmem 'ı' hdotless).1 (by decide)

theorem map_dotted_of_not_mem {s : String} (h : 'ı' ∉ s.toList) : s.map Text.dotted = s := by
  rw [← String.toList_inj, String.toList_map]
  have hsame : ∀ c ∈ s.toList, Text.dotted c = id c := by
    intro c hc
    refine if_neg ?_
    rintro rfl
    exact h hc
  rw [List.map_congr_left hsame, List.map_id]

/-- Blanks around a tag are ignored except in the kinds of node properties, and so is the case of
ASCII letters. Beyond that, a column type may be written with dotless letters i, and only then is a
tag accepted that is not one of the names in ASCII capitals. -/
theorem mapsAs (tag : String) :
    canonical.MapsAs tag (fun t => ((Text.trim tag).toLower, t) ∈ canonicalNames) ∧
    relational.MapsAs tag (fun t =>
      (((Text.trim tag).map Text.dotted).toUpper, t) ∈ relationalNames) ∧
    bolt.MapsAs tag (fun t => (tag, t) ∈ boltNames) ∧
    (relational.MapsAs tag (fun t => ((Text.trim tag).toUpper, t) ∈ relationalNames) ↔
      ¬('ı' ∈ (Text.trim tag).toList ∧ ∃ t, relational tag = .ok t)) := by
  have hrelational : relational.MapsAs tag (fun t =>
      (((Text.trim tag).map Text.dotted).toUpper, t) ∈ relationalNames) :=
    mapsAs_ofPartial fun t => relationalType?_eq_some_iff.trans mem_relationalNames_iff
  refine ⟨mapsAs_ofPartial ?_, hrelational, mapsAs_ofPartial ?_, ?_, ?_⟩
  · exact fun t => FieldType.ofTag?_eq_some_iff.trans mem_canonicalNames_iff.symm
  · exact fun t => boltType?_eq_some_iff
  · rintro h ⟨hdotless, t, ht⟩
    exact not_mem_relationalNames_of_dotless hdotless ((h.ok_iff t).1 ht)
  · intro h
    refine hrelational.congr fun t => ?_
    by_cases hdotless : 'ı' ∈ (Text.trim tag).toList
    · -- The tag is refused, and it is no name in capitals either.
      refine iff_of_false ?_ (not_mem_relationalNames_of_dotless hdotless)
      exact fun ht => h ⟨hdotless, t, (hrelational.ok_iff t).2 ht⟩
    · rw [map_dotted_of_not_mem hdotless]

/-- With a dotless i the name of a column type is no longer that name in another case, but it is
accepted. -/
theorem not_mapsAs_dotless :
    ¬∀ tag, relational.MapsAs tag fun t => ((Text.trim tag).toUpper, t) ∈ relationalNames := by
  intro h
  have haccepted : relational "ınteger" = .ok .long := by decide +kernel
  exact absurd (((h "ınteger").ok_iff .long).1 haccepted) (by decide +kernel)

end Vocabulary

end KeyedRecords
