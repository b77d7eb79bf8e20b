import Mathlib.Data.List.Sort
import KeyedRecords.Proofs.Text.Utf8
import KeyedRecords.Record.Basic

/-!
The JSON of a record has a member for each field of the schema and no other, in the order of the
bytes of the names. This is the order of the schema only if that ascends
(`Record.json_eq_object`).
-/

namespace KeyedRecords

/-! ## Sorting by name -/

section Sorting

variable {β : Type} {ps : List (String × β)}

theorem pairwise_sortedByName (hd : (ps.map (·.1)).Nodup) :
    (ps.mergeSort fun a b => a.1 ≤ b.1).Pairwise (·.1 < ·.1) := by
  have hle : (ps.mergeSort fun a b => a.1 ≤ b.1).Pairwise fun a b => decide (a.1 ≤ b.1) := by
    refine List.pairwise_mergeSort (fun a b c hab hbc => ?_) (fun a b => ?_) ps
    · exact decide_eq_true (String.le_trans (of_decide_eq_true hab) (of_decide_eq_true hbc))
    · simpa using String.le_total a.1 b.1
  have hperm := (List.mergeSort_perm ps fun a b => a.1 ≤ b.1).map (·.1)
  have hne := List.pairwise_map.1 (hperm.nodup_iff.2 hd)
  refine (hle.and hne).imp fun hab => ?_
  exact Std.lt_of_le_of_ne (of_decide_eq_true hab.1) hab.2

theorem sortedByName_eq_self_iff (hd : (ps.map (·.1)).Nodup) :
    (ps.mergeSort fun a b => a.1 ≤ b.1) = ps ↔ ps.Pairwise (·.1 < ·.1) := by
  constructor
  · intro h
    rw [← h]
    exact pairwise_sortedByName hd
  · intro h
    exact List.mergeSort_of_pairwise (h.imp fun hab => decide_eq_true (le_of_lt hab))

end Sorting

namespace Record

variable {r : Record}

/-- A member for each field, as the schema lists them: the JSON of the value, or null if the field
has none. -/
def listed (r : Record) : List (String × Json) :=
  r.schema.names.map fun name => (name, .ofOption Value.json (r.get? name))

theorem names_listed (r : Record) : r.listed.map (·.1) = r.schema.names := by
  simp [listed, Function.comp_def]

theorem nodup_names_listed (r : Record) : (r.listed.map (·.1)).Nodup := by
  rw [names_listed]
  exact r.schema.fields.distinct

theorem members_eq (r : Record) : r.members = r.listed.mergeSort fun a b => a.1 ≤ b.1 := by
  have hvalue : ∀ v? : Option Value, (v?.getD .null).json = .ofOption Value.json v? := by
    intro v?
    cases v? <;> rfl
  simp only [members, listed, hvalue]

/-- The members are those that the schema asks for, by the bytes of their names. -/
theorem json_eq_object (r : Record) : ∃ members, r.json = .object members ∧
    members.Perm r.listed ∧
    (members.Pairwise fun m m' => Utf8.ofString m.1 < Utf8.ofString m'.1) ∧
    (members = r.listed ↔
      r.schema.names.Pairwise fun name name' => Utf8.ofString name < Utf8.ofString name') := by
  refine ⟨r.members, rfl, ?_, ?_, ?_⟩
  · rw [members_eq]
    exact List.mergeSort_perm ..
  · rw [members_eq]
    exact (pairwise_sortedByName r.nodup_names_listed).imp Utf8.ofString_lt_iff.2
  · rw [members_eq, sortedByName_eq_self_iff r.nodup_names_listed, ← names_listed,
      List.pairwise_map]
    simp only [Utf8.ofString_lt_iff]

/-- A record without a value for its second field, which is the first by name. -/
def ageless : Record where
  schema := ⟨(Keyed.empty.insert "name" .string).insert "age" .int⟩
  values := Keyed.empty.insert "name" (.string "my-record")

theorem not_json_eq_listed : ¬∀ r : Record, r.json = .object r.listed := by
  intro h
  have hmembers : ageless.members = ageless.listed := by
    have hobject := h ageless
    simpa [json] using hobject
  rw [members_eq, sortedByName_eq_self_iff ageless.nodup_names_listed] at hmembers
  exact absurd hmembers (by decide +kernel)

end Record

end KeyedRecords
