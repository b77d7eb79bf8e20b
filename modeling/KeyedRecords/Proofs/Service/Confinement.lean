import KeyedRecords.Proofs.Record.Inference
import KeyedRecords.Proofs.Service.Correlation

/-!
Whatever object the schema in a slot was inferred from, it only has names that inference retains,
and so has every record that is built with it.
-/

namespace KeyedRecords

/-- All names of the schema are retained under the given list of fields. -/
def Schema.Within (allowed : Option (List String)) (schema : Schema) : Prop :=
  ∀ name ∈ schema.names, Inference.isRetained allowed name

/-- The record has distinct fields, none of them a back reference and all of them listed, if there
is a list; each has the value that the object has for it, or null. -/
structure Confined (allowed : Option (List String)) (o : TaggedObject) (record : Record) :
    Prop where
  distinct : record.schema.names.Nodup
  noBackReference : "this$0" ∉ record.schema.names
  listed : ∀ names, allowed = some names → ∀ name ∈ record.schema.names, name ∈ names
  keys : record.values.keys = record.schema.names
  values : ∀ name ∈ record.schema.names, record.get? name = some ((o.value? name).getD .null)

section Limits

variable {vocabulary : Vocabulary} {allowed : Option (List String)} {schema : Schema}
  {v : TaggedView} {o : TaggedObject}

theorem Schema.within_of_inferred (h : (inferSchema vocabulary allowed v).outcome = .ok schema) :
    schema.Within allowed := by
  intro name hname
  exact (List.mem_filter.1 ((Inference.mem_names_iff h).1 hname)).2

theorem Schema.Within.confined_build (h : schema.Within allowed) :
    Confined allowed o (.build o.view schema) where
  distinct := schema.fields.distinct
  noBackReference hname := (Inference.isRetained_iff.1 (h _ hname)).1 rfl
  listed names hnames name hname := (Inference.isRetained_iff.1 (h name hname)).2 names hnames
  keys := Record.keys_build o.view schema
  values _ := Record.get?_build

theorem confined_of_map {found : Except LookupError Schema} {record : Record}
    (h : ∀ schema, found = .ok schema → schema.Within allowed)
    (hrecord : found.map (.build o.view) = .ok record) : Confined allowed o record := by
  cases found with
  | error e => cases hrecord
  | ok schema =>
    cases hrecord
    exact (h schema rfl).confined_build

/-- The schema in the slot, if there is one, has retained names only. -/
def SchemaSlot.Within (allowed : Option (List String)) (slot : SchemaSlot) : Prop :=
  ∀ schema, slot.schema = some schema → schema.Within allowed

namespace SchemaSlot

variable {slot : SchemaSlot}

theorem Within.onToken (h : slot.Within allowed) (token : Option String) :
    (slot.onToken token).Within allowed := by
  unfold SchemaSlot.onToken
  split
  · exact h
  · split
    · exact h
    · exact nofun

/-- Kept for another object or inferred from this one, the schema that is found has retained names
only, and so has the one in the slot afterwards. A failed inference leaves no schema behind. -/
theorem Within.resolve (h : slot.Within allowed) (vocabulary : Vocabulary) (token : Option String)
    (v : TaggedView) :
    (∀ schema, (slot.resolve vocabulary allowed token v).1.outcome = .ok schema →
      schema.Within allowed) ∧
    (slot.resolve vocabulary allowed token v).2.Within allowed := by
  have hon := h.onToken token
  unfold SchemaSlot.resolve
  cases hkept : (slot.onToken token).schema with
  | some kept =>
    simp only [hkept]
    refine ⟨fun schema hschema => ?_, hon⟩
    cases hschema
    exact hon kept hkept
  | none =>
    simp only [hkept]
    cases hi : (inferSchema vocabulary allowed v).outcome with
    | error e =>
      refine ⟨fun schema hschema => ?_, hon⟩
      rw [hi] at hschema
      cases hschema
    | ok inferred =>
      have hinferred : inferred.Within allowed := Schema.within_of_inferred hi
      constructor <;> intro schema hschema
      · rw [hi] at hschema
        cases hschema
        exact hinferred
      · cases hschema
        exact hinferred

end SchemaSlot

/-- The list that limits the fields of records. Schemas from each object have all its fields,
whatever fields are listed. -/
def KeySettings.shown (c : KeySettings) : Option (List String) :=
  match c.schemaPolicy with
  | .perCorrelation => c.fields
  | .perLookup => none

end Limits

/-- With retained names only in its slot, a service makes confined records, and its slot stays so.
The slot has no part in the limit. -/
structure SlotService.Confines {σ C R : Type} (v : SlotService σ C R)
    (limit : R → Option (List String)) : Prop where
  confined : ∀ {r token o record}, (v.schemas r).Within (limit r) →
    (v.record r token o).1.outcome = .ok record → Confined (limit r) o record
  within : ∀ {r token o}, (v.schemas r).Within (limit r) →
    (v.record r token o).2.Within (limit r)
  limit_withSchemas : ∀ {r slot}, limit (v.withSchemas r slot) = limit r

section Services

variable {σ : Type}

theorem confines_keyService (store : ObjectStore σ) :
    (keyService store).Confines fun r => r.settings.shown where
  confined {r token o _} h hrecord := by
    cases hp : r.settings.schemaPolicy with
    | perCorrelation =>
      rw [((keyService store).record_of_perCorrelation hp).1] at hrecord
      simp only [KeySettings.shown, hp] at h ⊢
      exact confined_of_map (h.resolve store.vocabulary token o.view).1 hrecord
    | perLookup =>
      simp only [keyService, KeyLookup.recordOf, hp, outcome_inferRecord] at hrecord
      simp only [KeySettings.shown, hp]
      exact confined_of_map (fun _ => Schema.within_of_inferred) hrecord
  within {r token o} h := by
    cases hp : r.settings.schemaPolicy with
    | perCorrelation =>
      rw [((keyService store).record_of_perCorrelation hp).2]
      simp only [KeySettings.shown, hp] at h ⊢
      exact (h.resolve store.vocabulary token o.view).2
    | perLookup =>
      simp only [keyService, KeyLookup.recordOf, hp]
      exact h
  limit_withSchemas := rfl

theorem confines_queryService (store : ObjectStore σ) :
    (queryService store).Confines fun r => r.settings.fields where
  confined {_ token o _} h hrecord :=
    confined_of_map (h.resolve store.vocabulary token o.view).1 hrecord
  within {_ token o} h := (h.resolve store.vocabulary token o.view).2
  limit_withSchemas := rfl

end Services

theorem Lifecycle.eq_of_read {α R : Type} {l : Lifecycle R} {f : R → α} {a : α} {r : R}
    (h : l.resources.map f = some a) (hr : l.read = .ok r) : f r = a := by
  rw [read_eq_ok_iff.1 hr] at h
  exact Option.some.inj h

namespace SlotSession

variable {σ C R : Type} {v : SlotService σ C R} {s : SlotSession σ R} {task : Nat}
  {record : Record} {limit : R → Option (List String)}

/-- The step answers a lookup of the task with the record. -/
def Returns (v : SlotService σ C R) (s : SlotSession σ R) (x : SlotStep σ C) (task : Nat)
    (record : Record) : Prop :=
  (s.step v x).answers = (task, .ok (some record)) :: s.answers

/-- The schema in the slot of an enabled service has retained names only. -/
def Within (v : SlotService σ C R) (limit : R → Option (List String)) (s : SlotSession σ R) :
    Prop :=
  ∀ r, s.service.read = .ok r → (v.schemas r).Within (limit r)

/-! ## What a step does to the service -/

theorem service_lookup (coordinates : Coordinates) (context : Context) :
    (s.lookup v task coordinates context).service = s.service := by
  obtain hl | ⟨_, hl⟩ | ⟨_, _, _, hl⟩ := s.lookup_cases v task coordinates context <;> rw [hl] <;>
    rfl

theorem service_ask (r : R) (token : Option String) (request : Request) :
    (s.ask v r task token request).service = s.service := by
  obtain ⟨_, _, ha⟩ | ⟨_, _, ha⟩ | ⟨_, _, ha⟩ := s.ask_cases v r task token request <;> rw [ha] <;>
    rfl

theorem within_new (state : σ) : (new state).Within v limit := by
  intro r hr
  cases hr

namespace Within

theorem enable (h : s.Within v limit) (settings : C) : (s.enable v settings).Within v limit := by
  unfold SlotSession.enable
  split
  · intro r hr
    rw [v.schemas_of_enable (Lifecycle.read_eq_ok_iff.1 hr)]
    exact nofun
  · exact h

theorem disable (h : s.Within v limit) : s.disable.Within v limit := by
  unfold SlotSession.disable
  split
  · intro r hr
    have hnone := Lifecycle.read_eq_ok_iff.1 hr
    rw [Lifecycle.resources_disable] at hnone
    cases hnone
  · exact h

theorem advance (hv : v.Confines limit) (h : s.Within v limit) (task : Nat) :
    (s.advance v task).Within v limit := by
  unfold SlotSession.advance
  split
  · intro r hr
    rw [service_ask] at hr
    exact h r hr
  · next token o r _ hread =>
    intro r' hr'
    cases (Lifecycle.read_update hread _).symm.trans hr'
    rw [v.schemas_withSchemas, hv.limit_withSchemas]
    exact hv.within (h r hread)
  · exact h

theorem step (hv : v.Confines limit) (h : s.Within v limit) (x : SlotStep σ C) :
    (s.step v x).Within v limit := by
  cases x with
  | enable settings => exact h.enable settings
  | disable => exact h.disable
  | store state => exact h
  | lookup task coordinates context =>
    intro r hr
    rw [SlotSession.step, service_lookup] at hr
    exact h r hr
  | advance task => exact h.advance hv task

theorem run (hv : v.Confines limit) (h : s.Within v limit) (steps : List (SlotStep σ C)) :
    (s.run v steps).Within v limit := by
  induction steps generalizing s with
  | nil => exact h
  | cons x rest ih => exact ih (h.step hv x)

end Within

/-! ## What a step answers -/

/-- On the way from one state to another no lookup was answered with a record. -/
def Quiet (s s' : SlotSession σ R) : Prop :=
  ∀ task record, s'.answers ≠ (task, .ok (some record)) :: s.answers

theorem quiet_of_eq {s' : SlotSession σ R} (h : s'.answers = s.answers) : s.Quiet s' := by
  intro task record hanswers
  rw [h] at hanswers
  exact List.cons_ne_self _ _ hanswers.symm

theorem quiet_finish {s' : SlotSession σ R} {outcome : Except LookupError (Option Record)}
    (h : s'.answers = s.answers) (houtcome : ∀ record, outcome ≠ .ok (some record)) :
    s.Quiet (s'.finish task outcome) := by
  intro task' record hanswers
  rw [finish, h] at hanswers
  cases hanswers
  exact houtcome record rfl

theorem quiet_lookup (coordinates : Coordinates) (context : Context) :
    s.Quiet (s.lookup v task coordinates context) := by
  unfold lookup
  split
  · exact quiet_of_eq rfl
  · split
    · exact quiet_finish rfl (by simp)
    · split
      · exact quiet_finish rfl (by simp)
      · exact quiet_finish rfl (by simp)
      · exact quiet_of_eq rfl

theorem quiet_ask (r : R) (token : Option String) (request : Request) :
    s.Quiet (s.ask v r task token request) := by
  cases request with
  | find statement column args =>
    simp only [ask]
    rcases v.store.queryKeys s.state statement column args with ⟨e | _ | _, state⟩
    · exact quiet_finish rfl (by simp)
    · exact quiet_finish rfl (by simp)
    · exact quiet_of_eq rfl
  | fetch key =>
    simp only [ask]
    rcases v.store.get s.state (v.scope r) key with ⟨e | _ | _, state⟩
    · exact quiet_finish rfl (by simp)
    · exact quiet_finish rfl (by simp)
    · exact quiet_of_eq rfl

/-- Only the last step of a lookup, which has an object by then, returns a record. -/
theorem resolve_of_returns {x : SlotStep σ C} (h : s.Returns v x task record) :
    x = .advance task ∧ ∃ r token o, s.service.read = .ok r ∧
      s.underway.get? task = some ⟨token, .resolve o⟩ ∧
      (v.record r token o).1.outcome = .ok record := by
  cases x with
  | enable settings =>
    refine absurd h (quiet_of_eq ?_ task record)
    simp only [step, enable]
    split <;> rfl
  | disable =>
    refine absurd h (quiet_of_eq ?_ task record)
    simp only [step, disable]
    split <;> rfl
  | store state => exact absurd h (quiet_of_eq rfl task record)
  | lookup task' coordinates context =>
    exact absurd h (quiet_lookup coordinates context task record)
  | advance task' =>
    simp only [Returns, step, advance] at h
    split at h
    · exact absurd h (quiet_ask _ _ _ task record)
    · next token o r hu hr =>
      simp only [resolve, finish, List.cons.injEq, Prod.mk.injEq, and_true] at h
      obtain ⟨rfl, houtcome⟩ := h
      refine ⟨rfl, r, token, o, hr, hu, ?_⟩
      cases hrecord : (v.record r token o).1.outcome <;> rw [hrecord] at houtcome <;>
        cases houtcome
      rfl
    · exact absurd h (quiet_of_eq rfl task record)

theorem Within.confined_of_returns (hv : v.Confines limit) (h : s.Within v limit)
    {x : SlotStep σ C} (hx : s.Returns v x task record) :
    ∃ r token o, s.service.read = .ok r ∧ x = .advance task ∧
      s.underway.get? task = some ⟨token, .resolve o⟩ ∧ Confined (limit r) o record := by
  obtain ⟨rfl, r, token, o, hr, hu, hrecord⟩ := resolve_of_returns hx
  exact ⟨r, token, o, hr, rfl, hu, hv.confined (h r hr) hrecord⟩

/-- A record that is returned is confined to the fields that the settings at that time list, and has
the values of the object that its own lookup fetched. This holds in every interleaving, whatever
tokens the lookups carry, whatever shapes the objects have and whatever the settings were before. -/
theorem confined_of_returned (store : ObjectStore σ) (state : σ) :
    (∀ (steps : List (SlotStep σ KeySettings)) (x : SlotStep σ KeySettings) (task : Nat)
      (record : Record), let s := (new state).run (keyService store) steps
      s.Returns (keyService store) x task record →
      ∃ r token o, s.service.read = .ok r ∧ x = .advance task ∧
        s.underway.get? task = some ⟨token, .resolve o⟩ ∧
        Confined r.settings.shown o record) ∧
    ∀ (steps : List (SlotStep σ QuerySettings)) (x : SlotStep σ QuerySettings) (task : Nat)
      (record : Record), let s := (new state).run (queryService store) steps
      s.Returns (queryService store) x task record →
      ∃ r token o, s.service.read = .ok r ∧ x = .advance task ∧
        s.underway.get? task = some ⟨token, .resolve o⟩ ∧
        Confined r.settings.fields o record := by
  constructor <;> intro steps x task record s h
  · have hwithin : s.Within (keyService store) fun r => r.settings.shown :=
      (within_new state).run (confines_keyService store) steps
    exact hwithin.confined_of_returns (confines_keyService store) h
  · have hwithin : s.Within (queryService store) fun r => r.settings.fields :=
      (within_new state).run (confines_queryService store) steps
    exact hwithin.confined_of_returns (confines_queryService store) h

/-! Two lookups with one token are made one after the other, and in between the object loses the
field that is asked for. -/

/-- The lookup of task 2 has its object and waits for the schema. -/
def losing {C : Type} (settings : C) (requests : List Nat) : List (SlotStep TaggedObject C) :=
  [.enable settings, .lookup 1 asked (carrying "a")] ++ requests.map (fun _ => .advance 1) ++
    [.advance 1, .store narrow, .lookup 2 asked (carrying "a")] ++
    requests.map (fun _ => .advance 2)

def lostByKey : SlotSession TaggedObject KeyResources :=
  (new wide).run (keyService holding) (losing { cacheName := "c", fields := some ["age"] } [1])

def lostByQuery : SlotSession TaggedObject QueryResources :=
  (new wide).run (queryService holding)
    (losing { cacheName := "c", fields := some ["age"], keyColumn := "k", whereClause := "x" }
      [1, 2])

/-- Of the field that is listed, and the object lacks, only the name is left. -/
def emptied : Record := .build narrow.view (.ofFields [("age", .long)])

theorem confined_of_returned_losing :
    (lostByKey.Returns (keyService holding) (.advance 2) 2 emptied ∧
      Confined (some ["age"]) narrow emptied) ∧
    lostByQuery.Returns (queryService holding) (.advance 2) 2 emptied ∧
      Confined (some ["age"]) narrow emptied := by
  have hkey : lostByKey.Returns (keyService holding) (.advance 2) 2 emptied := by
    with_unfolding_all rfl
  have hquery : lostByQuery.Returns (queryService holding) (.advance 2) 2 emptied := by
    with_unfolding_all rfl
  refine ⟨⟨hkey, ?_⟩, hquery, ?_⟩
  · obtain ⟨r, token, o, hr, -, hu, hconfined⟩ :=
      (confined_of_returned holding wide).1 _ _ 2 emptied hkey
    have hunderway : lostByKey.underway.get? 2 = some ⟨some "a", .resolve narrow⟩ := by
      with_unfolding_all rfl
    have hshown : lostByKey.service.resources.map (·.settings.shown) = some (some ["age"]) := by
      with_unfolding_all rfl
    cases hunderway.symm.trans hu
    exact Lifecycle.eq_of_read hshown hr ▸ hconfined
  · obtain ⟨r, token, o, hr, -, hu, hconfined⟩ :=
      (confined_of_returned holding wide).2 _ _ 2 emptied hquery
    have hunderway : lostByQuery.underway.get? 2 = some ⟨some "a", .resolve narrow⟩ := by
      with_unfolding_all rfl
    have hshown : lostByQuery.service.resources.map (·.settings.fields) = some (some ["age"]) := by
      with_unfolding_all rfl
    cases hunderway.symm.trans hu
    exact Lifecycle.eq_of_read hshown hr ▸ hconfined

end SlotSession
end KeyedRecords
