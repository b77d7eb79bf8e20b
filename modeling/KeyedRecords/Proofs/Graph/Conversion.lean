import KeyedRecords.Graph.Bolt
import KeyedRecords.Proofs.Record.Inference
import KeyedRecords.Proofs.Record.Members

/-!
What the object of a node is. Its names are those of the properties in ascending order, and each
field is its property converted (`Node.get?_of_object`). If some property does not convert there is
no object, and the failure is that of the one with the least name (`Node.object_eq_error_iff`). None
of this depends on how the clocks of time zones are set.
-/

namespace KeyedRecords

namespace Bolt

variable {clocks : ZoneClocks} {b : Bolt} {v : Value} {e : LookupError}

/-- The value has a field value; all have but times that denote no instant. -/
def converts (clocks : ZoneClocks) (b : Bolt) : Bool := (b.value clocks).isOk

/-- The field that a property with the value becomes. -/
def field? (clocks : ZoneClocks) (b : Bolt) : Option TaggedField :=
  (b.value clocks).toOption.map fun v => ⟨b.tag, v⟩

theorem converts_of_ok (h : b.value clocks = .ok v) : b.converts clocks = true := by
  rw [converts, h]
  rfl

theorem converts_of_error (h : b.value clocks = .error e) : b.converts clocks = false := by
  rw [converts, h]
  rfl

theorem eq_of_value_eq_error (h : b.value clocks = .error e) :
    e = .store (.unconvertible b.tag) := by
  cases b with
  | dateTime _ _ _ | localDateTime _ _ | dateTimeZoneId _ _ _ =>
    simp only [value] at h
    split at h
    · cases h
    · cases h
      rfl
  | null | string _ | integer _ | float _ | boolean _ | map _ | other _ => cases h

theorem value_eq_error_iff :
    b.value clocks = .error e ↔ b.converts clocks = false ∧ e = .store (.unconvertible b.tag) := by
  constructor
  · intro h
    exact ⟨converts_of_error h, eq_of_value_eq_error h⟩
  · rintro ⟨hfails, rfl⟩
    cases hv : b.value clocks with
    | ok v =>
      rw [converts_of_ok hv] at hfails
      cases hfails
    | error e => rw [eq_of_value_eq_error hv]

end Bolt

namespace Node

variable {clocks : ZoneClocks} {n : Node} {ps : List (String × Bolt)} {o o' : TaggedObject}
  {scope name : String} {b : Bolt} {e : LookupError}

theorem mem_sorted_iff : (name, b) ∈ n.sorted ↔ n.get? name = some b := by
  rw [sorted, (List.mergeSort_perm ..).mem_iff, Keyed.mem_pairs_iff]

theorem nodup_sorted (n : Node) : (n.sorted.map (·.1)).Nodup :=
  ((List.mergeSort_perm n.pairs _).map _).nodup_iff.2 n.distinct

theorem pairwise_sorted (n : Node) : n.sorted.Pairwise (·.1 < ·.1) :=
  pairwise_sortedByName n.distinct

/-! ## The object -/

theorem foldlM_addTo_cons_eq_ok_iff {p : String × Bolt} :
    (p :: ps).foldlM (addTo clocks) o = .ok o' ↔ ∃ v, p.2.value clocks = .ok v ∧
      ps.foldlM (addTo clocks) (o.setField p.1 p.2.tag v) = .ok o' := by
  rw [List.foldlM_cons, addTo]
  cases p.2.value clocks <;> simp [Bind.bind, Except.bind]

/-- Properties with new and distinct names come after the fields that are there. -/
theorem foldlM_addTo_eq_ok (h : ps.foldlM (addTo clocks) o = .ok o')
    (hd : (ps.map (·.1)).Nodup) (hnew : ∀ p ∈ ps, p.1 ∉ o.names) :
    o'.names = o.names ++ ps.map (·.1) ∧ ∀ name, o'.fields.get? name =
      ((Keyed.valueIn name ps).bind (Bolt.field? clocks)).or (o.fields.get? name) := by
  induction ps generalizing o with
  | nil =>
    cases h
    simp [Keyed.valueIn]
  | cons p rest ih =>
    obtain ⟨v, hv, h⟩ := foldlM_addTo_cons_eq_ok_iff.1 h
    obtain ⟨hp, hrest⟩ := List.forall_mem_cons.1 hnew
    obtain ⟨hfirst, hd⟩ : p.1 ∉ rest.map (·.1) ∧ (rest.map (·.1)).Nodup := List.nodup_cons.1 hd
    have hnames : (o.setField p.1 p.2.tag v).names = o.names ++ [p.1] := by
      rw [TaggedObject.names_setField, if_neg hp]
    obtain ⟨hnames', hget⟩ := ih h hd fun q hq => by
      rw [hnames]
      have hmem : q.1 ∈ rest.map (·.1) := List.mem_map_of_mem hq
      have hne : q.1 ≠ p.1 := fun heq => hfirst (heq ▸ hmem)
      simp [hrest q hq, hne]
    refine ⟨by simp [hnames', hnames], fun name => ?_⟩
    rw [hget, TaggedObject.setField, Keyed.get?_insert, Keyed.valueIn]
    by_cases hname : p.1 = name
    · have hnone : Keyed.valueIn name rest = none := Keyed.valueIn_eq_none_iff.2 (hname ▸ hfirst)
      simp [hname, hnone, Bolt.field?, hv, Except.toOption]
    · simp [hname]

theorem foldlM_addTo_eq_error_iff : ps.foldlM (addTo clocks) o = .error e ↔
    ∃ p, ps.find? (fun p => !p.2.converts clocks) = some p ∧ p.2.value clocks = .error e := by
  induction ps generalizing o with
  | nil => simp [Pure.pure, Except.pure]
  | cons p rest ih =>
    rw [List.foldlM_cons, List.find?_cons, addTo]
    cases hp : p.2.value clocks with
    | ok v => simp [Bolt.converts_of_ok hp, Bind.bind, Except.bind, ih]
    | error e' => simp [Bolt.converts_of_error hp, hp, Bind.bind, Except.bind]

theorem names_of_object (h : n.object clocks scope = .ok o) : o.names = n.sorted.map (·.1) :=
  (foldlM_addTo_eq_ok h n.nodup_sorted fun _ _ => List.not_mem_nil).1

theorem get?_of_object (h : n.object clocks scope = .ok o) (name : String) :
    o.fields.get? name = (n.get? name).bind (Bolt.field? clocks) := by
  have hvalue : Keyed.valueIn name n.sorted = n.get? name := by
    ext b
    rw [← mem_sorted_iff]
    exact ⟨Keyed.mem_of_valueIn, Keyed.valueIn_of_mem n.nodup_sorted⟩
  have hget := (foldlM_addTo_eq_ok h n.nodup_sorted fun _ _ => List.not_mem_nil).2 name
  rw [hget, hvalue]
  exact Option.or_none

/-! ## The failure -/

/-- The property with the least name of those that do not convert. -/
structure FirstFault (clocks : ZoneClocks) (n : Node) (name : String) (b : Bolt) : Prop where
  get?_eq : n.get? name = some b
  fails : b.converts clocks = false
  least : ∀ name' b', n.get? name' = some b' → name' < name → b'.converts clocks

theorem find?_sorted_iff :
    n.sorted.find? (fun p => !p.2.converts clocks) = some (name, b) ↔
      n.FirstFault clocks name b := by
  rw [List.find?_eq_some_iff_append]
  constructor
  · rintro ⟨hfails, before, after, hsorted, hbefore⟩
    refine ⟨mem_sorted_iff.1 (by simp [hsorted]), by simpa using hfails, ?_⟩
    intro name' b' hget hlt
    have hmem : (name', b') ∈ before ++ (name, b) :: after := hsorted ▸ mem_sorted_iff.2 hget
    rcases List.mem_append.1 hmem with hmem | hmem
    · simpa using hbefore _ hmem
    · have hafter := (List.pairwise_append.1 (hsorted ▸ n.pairwise_sorted)).2.1
      rcases List.mem_cons.1 hmem with heq | hmem
      · cases heq
        exact (String.lt_irrefl _ hlt).elim
      · have hgt : name < name' := List.rel_of_pairwise_cons hafter hmem
        exact (String.lt_irrefl _ (String.lt_trans hlt hgt)).elim
  · rintro ⟨hget, hfails, hleast⟩
    obtain ⟨before, after, hsorted⟩ := List.append_of_mem (mem_sorted_iff.2 hget)
    refine ⟨by simp [hfails], before, after, hsorted, ?_⟩
    rintro ⟨name', b'⟩ hmem
    have hlt : name' < name :=
      (List.pairwise_append.1 (hsorted ▸ n.pairwise_sorted)).2.2 _ hmem _ List.mem_cons_self
    have hget' : n.get? name' = some b' := mem_sorted_iff.1 (by simp [hsorted, hmem])
    simpa using hleast name' b' hget' hlt

theorem FirstFault.name_eq {name' : String} {b' : Bolt} (h : n.FirstFault clocks name b)
    (h' : n.FirstFault clocks name' b') : name' = name := by
  have heq : some (name', b') = some (name, b) :=
    (find?_sorted_iff.2 h').symm.trans (find?_sorted_iff.2 h)
  cases heq
  rfl

theorem exists_firstFault (hget : n.get? name = some b) (hfails : b.converts clocks = false) :
    ∃ name b, n.FirstFault clocks name b := by
  have hsome : (n.sorted.find? fun p => !p.2.converts clocks).isSome :=
    List.find?_isSome.2 ⟨(name, b), mem_sorted_iff.2 hget, by simp [hfails]⟩
  obtain ⟨⟨name, b⟩, hfind⟩ := Option.isSome_iff_exists.1 hsome
  exact ⟨name, b, find?_sorted_iff.1 hfind⟩

theorem object_eq_error_iff : n.object clocks scope = .error e ↔
    ∃ name b, n.FirstFault clocks name b ∧ e = .store (.unconvertible b.tag) := by
  rw [object, foldlM_addTo_eq_error_iff]
  constructor
  · rintro ⟨⟨name, b⟩, hfind, hvalue⟩
    exact ⟨name, b, find?_sorted_iff.1 hfind, (Bolt.value_eq_error_iff.1 hvalue).2⟩
  · rintro ⟨name, b, hfault, he⟩
    exact ⟨(name, b), find?_sorted_iff.2 hfault, Bolt.value_eq_error_iff.2 ⟨hfault.fails, he⟩⟩

end Node

end KeyedRecords
