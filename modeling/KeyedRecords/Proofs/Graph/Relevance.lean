import Mathlib.Data.List.Sort
import Mathlib.Data.String.Basic
import KeyedRecords.Graph.Zone
import KeyedRecords.Proofs.Graph.Conversion

/-!
Which properties of a node matter to the record of its allowed fields: those that are allowed, and
besides only whether the first property that does not convert is one that is not
(`Node.record_eq_of_agree`).
-/

namespace KeyedRecords.Node

/-- The record of the allowed fields of a node. -/
def record (clocks : ZoneClocks) (scope : String) (allowed : List String) (n : Node) :
    Except LookupError Record :=
  match n.object clocks scope with
  | .ok o => (inferRecord .bolt (some allowed) o.view).outcome
  | .error e => .error e

/-- The nodes have the same properties under the names. -/
def AgreeOn (names : List String) (n n' : Node) : Prop :=
  ∀ name ∈ names, n.get? name = n'.get? name

variable {clocks : ZoneClocks} {scope : String} {allowed : List String} {n n' : Node}
  {o o' : TaggedObject} {name : String} {b : Bolt}

theorem AgreeOn.symm (h : AgreeOn allowed n n') : AgreeOn allowed n' n :=
  fun name hname => (h name hname).symm

theorem mem_names_sorted_iff : name ∈ n.sorted.map (·.1) ↔ ∃ b, n.get? name = some b := by
  simp [mem_sorted_iff]

/-- Sorted lists with the same members are the same. -/
theorem AgreeOn.filter_names (h : AgreeOn allowed n n') {p : String → Bool}
    (hp : ∀ name, p name → name ∈ allowed) :
    (n.sorted.map (·.1)).filter p = (n'.sorted.map (·.1)).filter p := by
  have hsorted (n : Node) : ((n.sorted.map (·.1)).filter p).Pairwise (· < ·) :=
    (List.pairwise_map.2 n.pairwise_sorted).filter p
  refine (hsorted n).eq_of_mem_iff (hsorted n') fun name => ?_
  rw [List.mem_filter, List.mem_filter, mem_names_sorted_iff, mem_names_sorted_iff]
  exact and_congr_left fun hname => by rw [h name (hp name hname)]

theorem AgreeOn.outcome_eq (h : AgreeOn allowed n n') (ho : n.object clocks scope = .ok o)
    (ho' : n'.object clocks scope = .ok o') :
    (inferRecord .bolt (some allowed) o.view).outcome =
      (inferRecord .bolt (some allowed) o'.view).outcome := by
  have hlisted (name : String) (hname : Inference.isRetained (some allowed) name) :
      name ∈ allowed := (Inference.isRetained_iff.1 hname).2 allowed rfl
  have hnames : Inference.retainedNames (some allowed) o.view =
      Inference.retainedNames (some allowed) o'.view := by
    have hfilter := h.filter_names hlisted
    rwa [← names_of_object ho, ← names_of_object ho'] at hfilter
  have hfield : ∀ name ∈ Inference.retainedNames (some allowed) o.view,
      o.fields.get? name = o'.fields.get? name := by
    intro name hname
    rw [get?_of_object ho, get?_of_object ho', h name (hlisted name (List.mem_filter.1 hname).2)]
  refine outcome_inferRecord_congr hnames (fun name hname => ?_) fun name hname => ?_
  · simp only [Inference.tagOf, TaggedObject.view, TaggedObject.tag?, hfield name hname]
  · simp only [TaggedObject.view, TaggedObject.value?, hfield name hname]

theorem record_of_fault (h : n.FirstFault clocks name b) :
    n.record clocks scope allowed = .error (.store (.unconvertible b.tag)) := by
  rw [record, object_eq_error_iff.2 ⟨name, b, h, rfl⟩]

/-- If neither node has its first fault under another name, the first fault of one is that of the
other. -/
theorem AgreeOn.firstFault (h : AgreeOn allowed n n') (hf : n.FirstFault clocks name b)
    (hname : name ∈ allowed) (hn' : ∀ name b, n'.FirstFault clocks name b → name ∈ allowed) :
    n'.FirstFault clocks name b := by
  have hget : n'.get? name = some b := (h name hname).symm.trans hf.get?_eq
  obtain ⟨name', b', hf'⟩ := exists_firstFault hget hf.fails
  have hget' : n.get? name' = some b' := (h name' (hn' name' b' hf')).trans hf'.get?_eq
  have hge : ¬name' < name := fun hlt => by simpa [hf'.fails] using hf.least name' b' hget' hlt
  have hle : ¬name < name' := fun hlt => by simpa [hf.fails] using hf'.least name b hget hlt
  obtain rfl : name = name' := String.le_antisymm (String.not_lt.1 hge) (String.not_lt.1 hle)
  cases hget.symm.trans hf'.get?_eq
  exact hf'

/-- Of two nodes that have the same properties under the allowed names the records are equal, or the
failures, unless the first property that does not convert is one that is not allowed. Then the node
with this property fails with its kind, whatever is allowed. So it is with any clocks, which decide
what the times of time zones are converted to. -/
theorem record_eq_of_agree (clocks : ZoneClocks) (scope : String) (allowed : List String)
    (n n' : Node) (h : ∀ name ∈ allowed, n.get? name = n'.get? name) :
    ((∀ name b, n.FirstFault clocks name b ∨ n'.FirstFault clocks name b → name ∈ allowed) →
      n.record clocks scope allowed = n'.record clocks scope allowed) ∧
    ∀ name b, n.FirstFault clocks name b →
      n.record clocks scope allowed = .error (.store (.unconvertible b.tag)) := by
  have hagree : AgreeOn allowed n n' := h
  refine ⟨fun hfaults => ?_, fun name b hf => record_of_fault hf⟩
  have hn : ∀ name b, n.FirstFault clocks name b → name ∈ allowed :=
    fun _ _ hf => hfaults _ _ (.inl hf)
  have hn' : ∀ name b, n'.FirstFault clocks name b → name ∈ allowed :=
    fun _ _ hf => hfaults _ _ (.inr hf)
  cases ho : n.object clocks scope with
  | error e =>
    obtain ⟨name, b, hf, -⟩ := object_eq_error_iff.1 ho
    rw [record_of_fault hf, record_of_fault (hagree.firstFault hf (hn name b hf) hn')]
  | ok o =>
    cases ho' : n'.object clocks scope with
    | error e =>
      obtain ⟨name, b, hf', -⟩ := object_eq_error_iff.1 ho'
      rw [record_of_fault hf', record_of_fault (hagree.symm.firstFault hf' (hn' name b hf') hn)]
    | ok o' =>
      simp only [record, ho, ho']
      exact hagree.outcome_eq ho ho'

/-- A time of a zone that is not listed. -/
def nowhere : Bolt := .dateTimeZoneId 0 0 "Nowhere/Atlantis"

def named : Node := Keyed.empty.insert "name" (.string "a")

def displaced : Node := named.insert "seen" nowhere

def doublyDisplaced : Node := (Keyed.empty.insert "zone" nowhere).insert "seen" nowhere

theorem firstFault_displaced : displaced.FirstFault .listed "seen" nowhere := by
  refine ⟨rfl, rfl, fun name b hget hlt => ?_⟩
  simp only [displaced, named, Keyed.get?_insert, Keyed.get?_empty] at hget
  split at hget
  · next h => exact (String.lt_irrefl _ (h ▸ hlt)).elim
  · split at hget
    · cases hget
      rfl
    · cases hget

theorem firstFault_doublyDisplaced : doublyDisplaced.FirstFault .listed "seen" nowhere := by
  refine ⟨rfl, rfl, fun name b hget hlt => ?_⟩
  simp only [doublyDisplaced, Keyed.get?_insert, Keyed.get?_empty] at hget
  split at hget
  · next h => exact (String.lt_irrefl _ (h ▸ hlt)).elim
  · split at hget
    · next h => exact absurd (h ▸ hlt) (by decide)
    · cases hget

/-- Both nodes fail by the property that is allowed, and the first by itself if it is not. -/
theorem record_eq_of_agree_displaced :
    displaced.record .listed "Person" ["seen"] =
      doublyDisplaced.record .listed "Person" ["seen"] ∧
    displaced.record .listed "Person" ["name"] =
      .error (.store (.unconvertible "DateTimeZoneId")) := by
  have hagree : ∀ name ∈ ["seen"], displaced.get? name = doublyDisplaced.get? name := by
    rintro _ (_ | ⟨_, ⟨⟩⟩)
    rfl
  constructor
  · refine (record_eq_of_agree .listed "Person" ["seen"] _ _ hagree).1 ?_
    rintro name b (hf | hf)
    · rw [firstFault_displaced.name_eq hf]
      exact List.mem_cons_self
    · rw [firstFault_doublyDisplaced.name_eq hf]
      exact List.mem_cons_self
  · exact (record_eq_of_agree .listed "Person" ["name"] _ displaced fun _ _ => rfl).2 _ _
      firstFault_displaced

/-- A property that is not allowed can make the record of the allowed ones fail. -/
theorem not_record_eq_of_agree :
    ¬∀ (scope : String) (allowed : List String) (n n' : Node),
      (∀ name ∈ allowed, n.get? name = n'.get? name) →
      n.record .listed scope allowed = n'.record .listed scope allowed := by
  intro h
  have hagree : ∀ name ∈ ["name"], named.get? name = displaced.get? name := by
    rintro _ (_ | ⟨_, ⟨⟩⟩)
    rfl
  have heq := h "Person" ["name"] named displaced hagree
  have hsorted : named.sorted = [("name", .string "a")] := List.mergeSort_singleton _
  rw [record_of_fault firstFault_displaced, record, object, hsorted] at heq
  cases heq

end KeyedRecords.Node
