import KeyedRecords.Proofs.Service.Interleaving
import KeyedRecords.Store.Memory

/-!
Lookups that share a schema slot get the records that they would get without it, however they are
interleaved, as long as their tokens tell the shapes of the objects apart.
-/

namespace KeyedRecords

theorem Lifecycle.read_update {R : Type} {l : Lifecycle R} {r : R} (h : l.read = .ok r) (r' : R) :
    (l.update r').read = .ok r' := by
  have hres := read_eq_ok_iff.1 h
  simp [read_eq_ok_iff, update, hres]

namespace SlotSession

variable {σ C R : Type} {v : SlotService σ C R} {s : SlotSession σ R} {task : Nat} {r : R}
  {token : Option String} {o : TaggedObject}

theorem get?_underway_of_isEmpty (h : s.underway.isEmpty) (task : Nat) :
    s.underway.get? task = none := by
  have hnil : s.underway.pairs = [] := List.isEmpty_iff.1 h
  simp [Keyed.get?, hnil, Keyed.valueIn]

/-! ## What a step does -/

theorem lookup_cases (v : SlotService σ C R) (s : SlotSession σ R) (task : Nat)
    (coordinates : Coordinates) (context : Context) :
    s.lookup v task coordinates context = s ∨
    (∃ outcome, s.lookup v task coordinates context = s.finish task outcome) ∨
    ∃ r request, s.service.read = .ok r ∧ s.lookup v task coordinates context =
      s.proceed task ⟨correlationToken? context, .ask request⟩ := by
  unfold lookup
  split
  · exact .inl rfl
  · cases hr : s.service.read with
    | error e => exact .inr (.inl ⟨_, rfl⟩)
    | ok r =>
      rcases hstart : v.start r coordinates with e | _ | request
      · exact .inr (.inl ⟨.error e, by simp only [hstart]⟩)
      · exact .inr (.inl ⟨.ok none, by simp only [hstart]⟩)
      · exact .inr (.inr ⟨r, request, rfl, by simp only [hstart]⟩)

theorem ask_cases (v : SlotService σ C R) (s : SlotSession σ R) (r : R) (task : Nat)
    (token : Option String) (request : Request) :
    (∃ state outcome, s.ask v r task token request = { s with state }.finish task outcome) ∨
    (∃ state key, s.ask v r task token request =
      { s with state }.proceed task ⟨token, .ask (.fetch key)⟩) ∨
    ∃ state o, s.ask v r task token request =
      { s with state, fetched := (token, o) :: s.fetched }.proceed task ⟨token, .resolve o⟩ := by
  cases request with
  | find statement column args =>
    simp only [ask]
    rcases v.store.queryKeys s.state statement column args with ⟨e | _ | ⟨key, _⟩, state⟩
    · exact .inl ⟨state, _, rfl⟩
    · exact .inl ⟨state, _, rfl⟩
    · exact .inr (.inl ⟨state, key, rfl⟩)
  | fetch key =>
    simp only [ask]
    rcases v.store.get s.state (v.scope r) key with ⟨e | _ | o, state⟩
    · exact .inl ⟨state, _, rfl⟩
    · exact .inl ⟨state, _, rfl⟩
    · exact .inr (.inr ⟨state, o, rfl⟩)

theorem fetched_subset_step (x : SlotStep σ C) : s.fetched ⊆ (s.step v x).fetched := by
  cases x with
  | enable settings =>
    simp only [step, enable]
    split <;> exact List.Subset.refl _
  | disable =>
    simp only [step, disable]
    split <;> exact List.Subset.refl _
  | store state => exact List.Subset.refl _
  | lookup task coordinates context =>
    rcases s.lookup_cases v task coordinates context with hl | ⟨_, hl⟩ | ⟨_, _, _, hl⟩ <;>
      simp only [step, hl] <;> exact List.Subset.refl _
  | advance task =>
    simp only [step, advance]
    split
    · next token request r _ _ =>
      rcases s.ask_cases v r task token request with ⟨_, _, ha⟩ | ⟨_, _, ha⟩ | ⟨_, o, ha⟩ <;>
        rw [ha]
      · exact List.Subset.refl _
      · exact List.Subset.refl _
      · exact List.subset_cons_self ..
    · exact List.Subset.refl _
    · exact List.Subset.refl _

theorem fetched_subset_run (steps : List (SlotStep σ C)) :
    s.fetched ⊆ (s.run v steps).fetched := by
  induction steps generalizing s with
  | nil => exact List.Subset.refl _
  | cons x rest ih => exact List.Subset.trans (fetched_subset_step x) ih

/-! ## What every step keeps -/

/-- What holds between any two steps. A service with lookups under way is enabled, the objects that
wait for their schemas were fetched, and so was one that explains the schema in the slot. -/
structure Coherent (v : SlotService σ C R) (s : SlotSession σ R) : Prop where
  serving : ∀ task u, s.underway.get? task = some u → ∃ r, s.service.read = .ok r
  waiting : ∀ task token o, s.underway.get? task = some ⟨token, .resolve o⟩ →
    (token, o) ∈ s.fetched
  explained : ∀ r, s.service.read = .ok r → v.policy r = .perCorrelation →
    (v.schemas r).Explained v.store.vocabulary (v.fields r) s.fetched

theorem coherent_new (state : σ) : (new state).Coherent v where
  serving _ _ h := by simp [new] at h
  waiting _ _ _ h := by simp [new] at h
  explained _ h := by simp [new, Lifecycle.new, Lifecycle.read] at h

namespace Coherent

theorem withState (h : s.Coherent v) (state : σ) : { s with state }.Coherent v :=
  ⟨h.serving, h.waiting, h.explained⟩

theorem see (h : s.Coherent v) (p : Option String × TaggedObject) :
    { s with fetched := p :: s.fetched }.Coherent v where
  serving := h.serving
  waiting task token o hu := List.mem_cons_of_mem p (h.waiting task token o hu)
  explained r hr hp := (h.explained r hr hp).of_subset (List.subset_cons_self ..)

theorem finish (h : s.Coherent v) (outcome : Except LookupError (Option Record)) :
    (s.finish task outcome).Coherent v := by
  have hsub (task') (u) (hu : (s.underway.erase task).get? task' = some u) :
      s.underway.get? task' = some u := by
    rw [Keyed.get?_erase] at hu
    split at hu
    · cases hu
    · exact hu
  exact ⟨fun task' u hu => h.serving task' u (hsub task' u hu),
    fun task' token o hu => h.waiting task' token o (hsub task' _ hu), h.explained⟩

theorem proceed (h : s.Coherent v) (hr : s.service.read = .ok r) {u : Underway}
    (hu : ∀ o, u.stage = .resolve o → (u.token, o) ∈ s.fetched) :
    (s.proceed task u).Coherent v := by
  refine ⟨fun _ _ _ => ⟨r, hr⟩, fun task' token o hu' => ?_, h.explained⟩
  simp only [SlotSession.proceed, Keyed.get?_insert] at hu'
  split at hu'
  · cases hu'
    exact hu o rfl
  · exact h.waiting task' token o hu'

/-- Whatever becomes of a service that no lookup holds, its slot starts empty. -/
theorem enabled_anew (hidle : s.underway.isEmpty) {service : Lifecycle R} {state : σ}
    (hempty : ∀ r, service.resources = some r → v.schemas r = .empty) :
    { s with service, state }.Coherent v where
  serving task u hu := by simp [get?_underway_of_isEmpty hidle] at hu
  waiting task token o hu := by simp [get?_underway_of_isEmpty hidle] at hu
  explained r hr _ := by
    rw [hempty r (Lifecycle.read_eq_ok_iff.1 hr)]
    exact SchemaSlot.explained_empty

theorem enable (h : s.Coherent v) (settings : C) : (s.enable v settings).Coherent v := by
  unfold SlotSession.enable
  split
  · next hidle => exact enabled_anew hidle fun _ => v.schemas_of_enable
  · exact h

theorem disable (h : s.Coherent v) : s.disable.Coherent v := by
  unfold SlotSession.disable
  split
  · next hidle => exact enabled_anew hidle fun r hr => by simp at hr
  · exact h

theorem lookup (h : s.Coherent v) (coordinates : Coordinates) (context : Context) :
    (s.lookup v task coordinates context).Coherent v := by
  obtain hl | ⟨outcome, hl⟩ | ⟨r, request, hr, hl⟩ := s.lookup_cases v task coordinates context <;>
    rw [hl]
  · exact h
  · exact h.finish outcome
  · exact h.proceed hr nofun

theorem ask (h : s.Coherent v) (hr : s.service.read = .ok r) (request : Request) :
    (s.ask v r task token request).Coherent v := by
  obtain ⟨state, outcome, ha⟩ | ⟨state, key, ha⟩ | ⟨state, o, ha⟩ :=
    s.ask_cases v r task token request <;> rw [ha]
  · exact (h.withState state).finish outcome
  · exact (h.withState state).proceed hr nofun
  · refine ((h.withState state).see (token, o)).proceed hr fun o' ho' => ?_
    cases ho'
    exact List.mem_cons_self

theorem resolve (h : s.Coherent v) (hseen : s.fetched.TellShapes) (hr : s.service.read = .ok r)
    (ho : (token, o) ∈ s.fetched) : (s.resolve v r task token o).Coherent v := by
  obtain ⟨t, rfl⟩ := Option.isSome_iff_exists.1 (hseen.carried _ ho)
  refine Coherent.finish ?_ _
  have hread := Lifecycle.read_update hr (v.withSchemas r (v.record r (some t) o).2)
  refine ⟨fun _ _ _ => ⟨_, hread⟩, h.waiting, fun r' hr' hp => ?_⟩
  cases hread.symm.trans hr'
  rw [v.policy_withSchemas] at hp
  rw [v.schemas_withSchemas, v.fields_withSchemas, (v.record_of_perCorrelation hp).2]
  exact (h.explained r hr hp).resolve ho

theorem advance (h : s.Coherent v) (hseen : s.fetched.TellShapes) :
    (s.advance v task).Coherent v := by
  unfold SlotSession.advance
  split
  · next hr => exact h.ask hr _
  · next hu hr => exact h.resolve hseen hr (h.waiting _ _ _ hu)
  · exact h

theorem step (h : s.Coherent v) (hseen : s.fetched.TellShapes) (x : SlotStep σ C) :
    (s.step v x).Coherent v := by
  cases x with
  | enable settings => exact h.enable settings
  | disable => exact h.disable
  | store state => exact h.withState state
  | lookup task coordinates context => exact h.lookup coordinates context
  | advance task => exact h.advance hseen

theorem run (h : s.Coherent v) {steps : List (SlotStep σ C)}
    (hseen : (s.run v steps).fetched.TellShapes) : (s.run v steps).Coherent v := by
  induction steps generalizing s with
  | nil => exact h
  | cons x rest ih =>
    have hfirst : s.fetched.TellShapes := hseen.of_subset (fetched_subset_run (x :: rest))
    exact ih (h.step hfirst x) hseen

/-- The next step of a lookup that has fetched an object answers it, with what inference gives for
the object. -/
theorem answers_advance (h : s.Coherent v) (hseen : s.fetched.TellShapes)
    (hu : s.underway.get? task = some ⟨token, .resolve o⟩) :
    ∃ r, s.service.read = .ok r ∧ (v.policy r = .perCorrelation →
      (s.advance v task).answers =
        (task, (inferRecord v.store.vocabulary (v.fields r) o.view).outcome.map some) ::
          s.answers) := by
  obtain ⟨r, hr⟩ := h.serving task _ hu
  refine ⟨r, hr, fun hp => ?_⟩
  have ho : (token, o) ∈ s.fetched := h.waiting task token o hu
  obtain ⟨t, rfl⟩ := Option.isSome_iff_exists.1 (hseen.carried _ ho)
  have hrecord : (v.record r (some t) o).1.outcome =
      (inferRecord v.store.vocabulary (v.fields r) o.view).outcome := by
    rw [(v.record_of_perCorrelation hp).1, (h.explained r hr hp).resolve_eq hseen ho,
      outcome_inferRecord]
  simp only [SlotSession.advance, hu, hr, SlotSession.resolve, SlotSession.finish, hrecord]

end Coherent

/-- A lookup by key with one schema for each token, or a lookup by query, that has fetched an object
is answered by its next step, and just as if the schema of the object were inferred anew. This holds
in every interleaving, whatever the settings were before and whatever becomes of the store, if all
lookups so far that fetched an object had tokens and these tell the shapes of the objects apart. -/
theorem answers_eq_inferred (store : ObjectStore σ) (state : σ) :
    (∀ steps : List (SlotStep σ KeySettings),
      let s := (new state).run (keyService store) steps
      s.fetched.TellShapes → ∀ task token o,
        s.underway.get? task = some ⟨token, .resolve o⟩ →
        ∃ r, s.service.read = .ok r ∧ (r.settings.schemaPolicy = .perCorrelation →
          (s.advance (keyService store) task).answers =
            (task, (inferRecord store.vocabulary r.settings.fields o.view).outcome.map some) ::
              s.answers)) ∧
    ∀ steps : List (SlotStep σ QuerySettings),
      let s := (new state).run (queryService store) steps
      s.fetched.TellShapes → ∀ task token o,
        s.underway.get? task = some ⟨token, .resolve o⟩ →
        ∃ r, s.service.read = .ok r ∧
          (s.advance (queryService store) task).answers =
            (task, (inferRecord store.vocabulary r.settings.fields o.view).outcome.map some) ::
              s.answers := by
  constructor <;> intro steps s hseen task token o hu
  · exact ((coherent_new state).run hseen).answers_advance hseen hu
  · obtain ⟨r, hr, hanswers⟩ := ((coherent_new state).run hseen).answers_advance hseen hu
    exact ⟨r, hr, hanswers rfl⟩

/-! Two lookups are under way at once, and the one that began later is answered first. -/

/-- A store that answers every request with the one object that it holds. -/
def holding : ObjectStore TaggedObject where
  ping o := (.ok (), o)
  vocabulary := .bolt
  dialect := .sql
  get o _ _ := (.ok (some o), o)
  queryKeys o _ _ _ := (.ok [.boolean true], o)

def narrow : TaggedObject := (TaggedObject.new "Person").setField "name" "String" (.string "a")

def wide : TaggedObject := narrow.setField "age" "Integer" (.long 3)

def asked : Coordinates := Keyed.empty.insert "key" (.boolean true)

def carrying (token : String) : Context := Keyed.empty.insert "uuid" token

/-- The lookup of task 2 begins when that of task 1 has its object, and is answered before it. -/
def overtaking {C : Type} (settings : C) (requests : List Nat) : List (SlotStep TaggedObject C) :=
  [.enable settings, .lookup 1 asked (carrying "a")] ++ requests.map (fun _ => .advance 1) ++
    [.store wide, .lookup 2 asked (carrying "b")] ++ requests.map (fun _ => .advance 2) ++
    [.advance 2]

theorem tellShapes_overtaking : Sightings.TellShapes [(some "b", wide), (some "a", narrow)] := by
  constructor <;> simp

def overtakenByKey : SlotSession TaggedObject KeyResources :=
  (new narrow).run (keyService holding) (overtaking { cacheName := "c" } [1])

def overtakenByQuery : SlotSession TaggedObject QueryResources :=
  (new narrow).run (queryService holding)
    (overtaking { cacheName := "c", keyColumn := "k", whereClause := "x" } [1, 2])

theorem answers_eq_inferred_overtaking :
    (overtakenByKey.advance (keyService holding) 1).answers =
      (1, (inferRecord .bolt none narrow.view).outcome.map some) :: overtakenByKey.answers ∧
    (overtakenByQuery.advance (queryService holding) 1).answers =
      (1, (inferRecord .bolt none narrow.view).outcome.map some) :: overtakenByQuery.answers := by
  constructor
  · have hfetched : overtakenByKey.fetched = [(some "b", wide), (some "a", narrow)] := by
      with_unfolding_all rfl
    obtain ⟨r, hr, hanswers⟩ := (answers_eq_inferred holding narrow).1 _
      (hfetched ▸ tellShapes_overtaking) 1 (some "a") narrow (by with_unfolding_all rfl)
    have hsettings : overtakenByKey.service.resources.map (·.settings) =
        some { cacheName := "c" } := by
      with_unfolding_all rfl
    change overtakenByKey.service.read = .ok r at hr
    simp only [Lifecycle.read_eq_ok_iff.1 hr, Option.map_some, Option.some.injEq] at hsettings
    rw [hsettings] at hanswers
    exact hanswers rfl
  · have hfetched : overtakenByQuery.fetched = [(some "b", wide), (some "a", narrow)] := by
      with_unfolding_all rfl
    obtain ⟨r, hr, hanswers⟩ := (answers_eq_inferred holding narrow).2 _
      (hfetched ▸ tellShapes_overtaking) 1 (some "a") narrow (by with_unfolding_all rfl)
    have hfields : overtakenByQuery.service.resources.map (·.settings.fields) = some none := by
      with_unfolding_all rfl
    change overtakenByQuery.service.read = .ok r at hr
    simp only [Lifecycle.read_eq_ok_iff.1 hr, Option.map_some, Option.some.injEq] at hfields
    rwa [hfields] at hanswers

end SlotSession
end KeyedRecords
