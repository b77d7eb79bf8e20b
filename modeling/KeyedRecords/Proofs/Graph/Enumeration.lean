import Mathlib.Data.List.Sort
import Mathlib.Data.String.Basic
import KeyedRecords.Graph.Zone
import KeyedRecords.Proofs.Graph.Conversion
import KeyedRecords.Proofs.Text.Utf8

/-!
The conversion of a node does not depend on the order in which its properties are enumerated. What
the object is, and which failure there is if there is none, is said of the properties by their names
only, and the bytes of the names give the order (`Node.object_eq_of_perm`).
-/

namespace KeyedRecords

namespace Node

variable {clocks : ZoneClocks} {n n' : Node} {ps : List (String × Bolt)} {o o' : TaggedObject}
  {scope name : String} {b : Bolt} {e : LookupError}

/-! ## The object -/

/-- The object has the properties of the node as its fields, each with its kind and its converted
value, in the order of the bytes of their names. -/
structure IsObjectOf (clocks : ZoneClocks) (scope : String) (n : Node) (o : TaggedObject) :
    Prop where
  typeName_eq : o.typeName = scope
  ascending : o.names.Pairwise fun name name' => Utf8.ofString name < Utf8.ofString name'
  mem_names_iff : ∀ name, name ∈ o.names ↔ name ∈ n.keys
  holds : ∀ name b, n.get? name = some b →
    ∃ v, b.value clocks = .ok v ∧ o.fields.get? name = some ⟨b.tag, v⟩

theorem IsObjectOf.unique (h : IsObjectOf clocks scope n o) (h' : IsObjectOf clocks scope n o') :
    o = o' := by
  have hnames : o.names = o'.names := by
    refine (h.ascending.imp Utf8.ofString_lt_iff.1).eq_of_mem_iff
      (h'.ascending.imp Utf8.ofString_lt_iff.1) fun name => ?_
    rw [h.mem_names_iff, h'.mem_names_iff]
  have hfields : o.fields = o'.fields := by
    refine Keyed.eq_of_keys hnames fun name => ?_
    cases hget : n.get? name with
    | none =>
      have hkey : name ∉ n.keys := Keyed.get?_eq_none_iff.1 hget
      rw [Keyed.get?_eq_none_iff.2 (mt (h.mem_names_iff name).1 hkey),
        Keyed.get?_eq_none_iff.2 (mt (h'.mem_names_iff name).1 hkey)]
    | some b =>
      obtain ⟨v, hv, hfield⟩ := h.holds name b hget
      obtain ⟨v', hv', hfield'⟩ := h'.holds name b hget
      cases hv.symm.trans hv'
      rw [hfield, hfield']
  obtain ⟨typeName, fields⟩ := o
  obtain ⟨typeName', fields'⟩ := o'
  obtain rfl : typeName = typeName' := h.typeName_eq.trans h'.typeName_eq.symm
  obtain rfl : fields = fields' := hfields
  rfl

theorem typeName_of_foldlM (h : ps.foldlM (addTo clocks) o = .ok o') :
    o'.typeName = o.typeName := by
  induction ps generalizing o with
  | nil =>
    cases h
    rfl
  | cons p rest ih =>
    obtain ⟨v, -, h⟩ := foldlM_addTo_cons_eq_ok_iff.1 h
    have htype := ih h
    exact htype

theorem isObjectOf_of_object (h : n.object clocks scope = .ok o) : IsObjectOf clocks scope n o := by
  have hnames := names_of_object h
  have hmem : ∀ name, name ∈ o.names ↔ name ∈ n.keys := by
    intro name
    rw [hnames, Keyed.mem_keys_iff]
    simp [mem_sorted_iff]
  refine ⟨typeName_of_foldlM h, ?ascending, hmem, ?holds⟩
  case ascending =>
    rw [hnames, List.pairwise_map]
    exact n.pairwise_sorted.imp Utf8.ofString_lt_iff.2
  case holds =>
    intro name b hget
    have hfield := get?_of_object h name
    rw [hget, Option.bind_some, Bolt.field?] at hfield
    cases hv : b.value clocks with
    | ok v => exact ⟨v, rfl, by simpa [hv, Except.toOption] using hfield⟩
    | error e =>
      -- Without a value the name would not be one of the object.
      have hnone : o.fields.get? name = none := by simpa [hv, Except.toOption] using hfield
      have hkey : name ∈ n.keys := Keyed.mem_keys_iff.2 ⟨b, hget⟩
      exact absurd ((hmem name).2 hkey) (Keyed.get?_eq_none_iff.1 hnone)

theorem object_eq_ok_iff : n.object clocks scope = .ok o ↔ IsObjectOf clocks scope n o := by
  constructor
  · exact isObjectOf_of_object
  · intro h
    cases ho : n.object clocks scope with
    | ok o' => rw [(isObjectOf_of_object ho).unique h]
    | error e =>
      obtain ⟨name, b, hfault, -⟩ := object_eq_error_iff.1 ho
      obtain ⟨v, hv, -⟩ := h.holds name b hfault.get?_eq
      have hfails := hfault.fails
      rw [Bolt.converts_of_ok hv] at hfails
      cases hfails

/-! ## The failure -/

/-- The property does not convert, and the bytes of its name are less than those of any other that
does not. -/
structure LeastFault (clocks : ZoneClocks) (n : Node) (name : String) (b : Bolt) : Prop where
  get?_eq : n.get? name = some b
  fails : b.converts clocks = false
  least : ∀ name' b', n.get? name' = some b' → b'.converts clocks = false → name' ≠ name →
    Utf8.ofString name < Utf8.ofString name'

theorem leastFault_iff : n.LeastFault clocks name b ↔ n.FirstFault clocks name b := by
  constructor
  · rintro ⟨hget, hfails, hleast⟩
    refine ⟨hget, hfails, fun name' b' hget' hlt => ?_⟩
    by_contra hfails'
    have hne : name' ≠ name := ne_of_lt hlt
    have hgt := hleast name' b' hget' (Bool.eq_false_of_not_eq_true hfails') hne
    exact lt_asymm hlt (Utf8.ofString_lt_iff.1 hgt)
  · rintro ⟨hget, hfails, hleast⟩
    refine ⟨hget, hfails, fun name' b' hget' hfails' hne => ?_⟩
    rw [Utf8.ofString_lt_iff]
    refine lt_of_le_of_ne (not_lt.1 fun hlt => ?_) hne.symm
    have hconverts := hleast name' b' hget' hlt
    rw [hfails'] at hconverts
    cases hconverts

theorem object_eq_error_iff_least : n.object clocks scope = .error e ↔
    ∃ name b, n.LeastFault clocks name b ∧ b.value clocks = .error e := by
  simp only [object_eq_error_iff, leastFault_iff, Bolt.value_eq_error_iff]
  constructor
  · rintro ⟨name, b, hfault, he⟩
    exact ⟨name, b, hfault, hfault.fails, he⟩
  · rintro ⟨name, b, hfault, -, he⟩
    exact ⟨name, b, hfault, he⟩

/-! ## The order of the properties -/

theorem IsObjectOf.of_perm (h : n.pairs.Perm n'.pairs) (ho : IsObjectOf clocks scope n o) :
    IsObjectOf clocks scope n' o where
  typeName_eq := ho.typeName_eq
  ascending := ho.ascending
  mem_names_iff name := by
    rw [ho.mem_names_iff, Keyed.keys, Keyed.keys, (h.map _).mem_iff]
  holds name b hget := ho.holds name b ((Keyed.get?_eq_of_perm h name).trans hget)

theorem LeastFault.of_perm (h : n.pairs.Perm n'.pairs) (hfault : n.LeastFault clocks name b) :
    n'.LeastFault clocks name b := by
  obtain ⟨hget, hfails, hleast⟩ := hfault
  simp only [Keyed.get?_eq_of_perm h] at hget hleast
  exact ⟨hget, hfails, hleast⟩

/-- However its properties are enumerated, a node has the same outcome. It is the object with the
properties converted and in the order of the bytes of their names, or the failure of the one with
the least name of those that do not convert. So it is with any clocks, which decide what the times
of time zones are converted to. -/
theorem object_eq_of_perm (clocks : ZoneClocks) (scope : String) (n n' : Node)
    (h : n.pairs.Perm n'.pairs) :
    n.object clocks scope = n'.object clocks scope ∧
      (∀ o, n.object clocks scope = .ok o ↔ IsObjectOf clocks scope n o) ∧
      ∀ e, n.object clocks scope = .error e ↔
        ∃ name b, n.LeastFault clocks name b ∧ b.value clocks = .error e := by
  refine ⟨?_, fun o => object_eq_ok_iff, fun e => object_eq_error_iff_least⟩
  cases ho : n.object clocks scope with
  | ok o => exact (object_eq_ok_iff.2 ((object_eq_ok_iff.1 ho).of_perm h)).symm
  | error e =>
    obtain ⟨name, b, hfault, he⟩ := object_eq_error_iff_least.1 ho
    exact (object_eq_error_iff_least.2 ⟨name, b, hfault.of_perm h, he⟩).symm

/-- The properties of the node in reverse. -/
def reversed (n : Node) : Node where
  pairs := n.pairs.reverse
  distinct := by
    rw [List.map_reverse]
    exact List.nodup_reverse.2 n.distinct

theorem perm_reversed (n : Node) : n.reversed.pairs.Perm n.pairs := List.reverse_perm n.pairs

/-- Names that code units of two bytes would put the other way around. -/
def titled : Node := (Keyed.empty.insert "ﬀ" (.string "a")).insert "𝒜" (.boolean true)

def titledObject : TaggedObject :=
  ((TaggedObject.new "Person").setField "ﬀ" "String" (.string "a")).setField "𝒜" "Boolean"
    (.boolean true)

/-- Neither of the times is an instant. -/
def untimely : Node :=
  (Keyed.empty.insert "a" (.localDateTime 1000000000000000000 0)).insert "b" (.dateTime 0 0 86400)

theorem isObjectOf_titled : IsObjectOf .listed "Person" titled titledObject where
  typeName_eq := rfl
  ascending := by decide +kernel
  mem_names_iff name := Iff.rfl
  holds name b hget := by
    simp only [titled, Keyed.get?_insert, Keyed.get?_empty] at hget
    split at hget
    · next heq =>
      cases hget
      exact ⟨.boolean true, rfl, heq ▸ rfl⟩
    · split at hget
      · next heq =>
        cases hget
        exact ⟨.string "a", rfl, heq ▸ rfl⟩
      · cases hget

theorem leastFault_untimely :
    untimely.LeastFault .listed "a" (.localDateTime 1000000000000000000 0) where
  get?_eq := rfl
  fails := by decide +kernel
  least name b hget hfails hne := by
    simp only [untimely, Keyed.get?_insert, Keyed.get?_empty] at hget
    split at hget
    · next heq =>
      subst heq
      decide +kernel
    · split at hget
      · next heq => exact absurd heq.symm hne
      · cases hget

/-- In reverse the one node is the same object, and the other fails by the same of its times. -/
theorem object_eq_of_perm_reversed :
    titled.reversed.object .listed "Person" = .ok titledObject ∧
      untimely.reversed.object .listed "Person" =
        .error (.store (.unconvertible "LocalDateTime")) := by
  obtain ⟨hobject, -, -⟩ := object_eq_of_perm .listed "Person" _ _ titled.perm_reversed
  obtain ⟨hfailure, -, -⟩ := object_eq_of_perm .listed "Person" _ _ untimely.perm_reversed
  constructor
  · rw [hobject]
    exact object_eq_ok_iff.2 isObjectOf_titled
  · rw [hfailure]
    exact object_eq_error_iff_least.2 ⟨_, _, leastFault_untimely, rfl⟩

end Node

end KeyedRecords
