import KeyedRecords.Proofs.Cache.Shapes
import KeyedRecords.Service.ByKey
import KeyedRecords.Service.ByQuery

/-!
Lookups of many tasks on one service that keeps a schema for them. Each lookup asks the store one
thing after another and then finds the schema of the object that it got; between any two of these,
other lookups go on and the store may change. All of them hold the service, so whoever wants to
enable or disable it waits until none is under way.
-/

namespace KeyedRecords

/-- What a lookup asks of the store. -/
inductive Request where
  | find (statement column : String) (args : Arguments)
  | fetch (key : Value)

/-- How far a lookup has got. -/
inductive Stage where
  | ask (request : Request)
  | resolve (o : TaggedObject)

structure Underway where
  token : Option String
  stage : Stage

/-- A service over a store of objects, with settings of type `C`, that holds `R` while it is enabled
and a schema slot in it. -/
structure SlotService (σ C R : Type) where
  store : ObjectStore σ
  enable : C → Lifecycle R → σ → Served (Lifecycle R) σ Unit
  /-- What a lookup asks first, if it asks anything. -/
  start : R → Coordinates → Except LookupError (Option Request)
  scope : R → String
  policy : R → SchemaPolicy
  fields : R → Option (List String)
  schemas : R → SchemaSlot
  withSchemas : R → SchemaSlot → R
  record : R → Option String → TaggedObject → Traced Record × SchemaSlot
  schemas_of_enable {c l s r} : (enable c l s).service.resources = some r → schemas r = .empty
  record_of_perCorrelation {r token o} : policy r = .perCorrelation →
    let resolved := (schemas r).resolve store.vocabulary (fields r) token o.view
    (record r token o).1.outcome = resolved.1.outcome.map (.build o.view) ∧
      (record r token o).2 = resolved.2
  policy_withSchemas {r slot} : policy (withSchemas r slot) = policy r
  fields_withSchemas {r slot} : fields (withSchemas r slot) = fields r
  schemas_withSchemas {r slot} : schemas (withSchemas r slot) = slot

section Services

variable {σ : Type}

theorem Traced.outcome_bind_pure {α β : Type} (x : Traced α) (f : α → β) :
    (x.bind fun a => pure (f a)).outcome = x.outcome.map f := by
  unfold bind
  cases x.outcome <;> rfl

theorem Lifecycle.resources_enable_iff {R : Type} {l : Lifecycle R}
    {build : Option R → Except LookupError R} {r : R} :
    (l.enable build).2.resources = some r ↔ build l.resources = .ok r := by
  cases h : build l.resources <;> simp [enable, beginEnable, endEnable, h]

variable {store : ObjectStore σ} {s : σ}

theorem Lifecycle.resources_enable_reached {R : Type} {l : Lifecycle R} {backend : Backend}
    {ping : Except LookupError Unit} {built r : R} :
    (l.enable fun _ => (reached backend ping).map fun _ => built).2.resources = some r ↔
      ping = .ok () ∧ r = built := by
  rw [resources_enable_iff]
  cases ping with
  | error e => simp [Except.map]
  | ok u => cases u; simp [Except.map, eq_comm]

theorem KeyLookup.resources_enable_iff {settings : KeySettings} {l : KeyLookup}
    {r : KeyResources} :
    Lifecycle.resources (enable store settings l s).service = some r ↔
      settings.check = .ok () ∧ (store.ping s).1 = .ok () ∧ r = ⟨settings, .empty⟩ := by
  unfold enable
  cases settings.check with
  | error e => simp [Lifecycle.resources_enable_iff]
  | ok _ => simp [Lifecycle.resources_enable_reached]

theorem QueryLookup.resources_enable_iff {settings : QuerySettings} {l : QueryLookup}
    {r : QueryResources} :
    Lifecycle.resources (enable store settings l s).service = some r ↔
      settings.check = .ok () ∧ (store.ping s).1 = .ok () ∧
        r = resources store.dialect settings := by
  unfold enable
  cases settings.check with
  | error e => simp [Lifecycle.resources_enable_iff]
  | ok _ => simp [Lifecycle.resources_enable_reached]

def keyService (store : ObjectStore σ) : SlotService σ KeySettings KeyResources where
  store
  enable := KeyLookup.enable store
  start _ coordinates := .ok ((keyValue? coordinates keyCoordinate).map .fetch)
  scope r := r.settings.cacheName
  policy r := r.settings.schemaPolicy
  fields r := r.settings.fields
  schemas r := r.schemas
  withSchemas r slot := { r with schemas := slot }
  record := KeyLookup.recordOf store.vocabulary
  schemas_of_enable {c l s r} h := by
    obtain ⟨-, -, rfl⟩ := KeyLookup.resources_enable_iff.1 h
    rfl
  record_of_perCorrelation {r token o} h := by
    simp only [KeyLookup.recordOf, h, and_true]
    exact Traced.outcome_bind_pure ..
  policy_withSchemas := rfl
  fields_withSchemas := rfl
  schemas_withSchemas := rfl

def queryService (store : ObjectStore σ) : SlotService σ QuerySettings QueryResources where
  store
  enable := QueryLookup.enable store
  start r coordinates :=
    (Arguments.extract coordinates).map fun args => some (.find r.statement r.column args)
  scope r := r.settings.cacheName
  policy _ := .perCorrelation
  fields r := r.settings.fields
  schemas r := r.schemas
  withSchemas r slot := { r with schemas := slot }
  record r token o :=
    let (schema, slot) := r.schemas.resolve store.vocabulary r.settings.fields token o.view
    (⟨schema.calls, schema.outcome.map (.build o.view)⟩, slot)
  schemas_of_enable {c l s r} h := by
    obtain ⟨-, -, rfl⟩ := QueryLookup.resources_enable_iff.1 h
    rfl
  record_of_perCorrelation _ := ⟨rfl, rfl⟩
  policy_withSchemas := rfl
  fields_withSchemas := rfl
  schemas_withSchemas := rfl

end Services

/-- A request to the service, the next thing that a lookup under way does, or a change in the
store that comes from elsewhere. -/
inductive SlotStep (σ C : Type) where
  | enable (settings : C)
  | disable
  | store (state : σ)
  | lookup (task : Nat) (coordinates : Coordinates) (context : Context)
  | advance (task : Nat)

structure SlotSession (σ R : Type) where
  service : Lifecycle R
  state : σ
  /-- The lookups under way, by task. -/
  underway : Keyed Nat Underway
  /-- The objects fetched so far. -/
  fetched : Sightings
  /-- What lookups were answered, the last answer first. -/
  answers : List (Nat × Except LookupError (Option Record))

namespace SlotSession

variable {σ C R : Type}

def new (state : σ) : SlotSession σ R := ⟨.new, state, .empty, [], []⟩

def finish (s : SlotSession σ R) (task : Nat) (outcome : Except LookupError (Option Record)) :
    SlotSession σ R :=
  { s with underway := s.underway.erase task, answers := (task, outcome) :: s.answers }

def proceed (s : SlotSession σ R) (task : Nat) (u : Underway) : SlotSession σ R :=
  { s with underway := s.underway.insert task u }

def enable (v : SlotService σ C R) (s : SlotSession σ R) (settings : C) : SlotSession σ R :=
  if s.underway.isEmpty then
    let served := v.enable settings s.service s.state
    { s with service := served.service, state := served.store }
  else s

def disable (s : SlotSession σ R) : SlotSession σ R :=
  if s.underway.isEmpty then { s with service := s.service.disable } else s

/-- A task asks for a record, unless it has a lookup under way. -/
def lookup (v : SlotService σ C R) (s : SlotSession σ R) (task : Nat) (coordinates : Coordinates)
    (context : Context) : SlotSession σ R :=
  if s.underway.contains task then s else
  match s.service.read with
  | .error e => s.finish task (.error e)
  | .ok r =>
    match v.start r coordinates with
    | .error e => s.finish task (.error e)
    | .ok none => s.finish task (.ok none)
    | .ok (some request) => s.proceed task ⟨correlationToken? context, .ask request⟩

def ask (v : SlotService σ C R) (s : SlotSession σ R) (r : R) (task : Nat) (token : Option String) :
    Request → SlotSession σ R
  | .find statement column args =>
    match v.store.queryKeys s.state statement column args with
    | (.error e, state) => { s with state }.finish task (.error e)
    | (.ok [], state) => { s with state }.finish task (.ok none)
    | (.ok (key :: _), state) => { s with state }.proceed task ⟨token, .ask (.fetch key)⟩
  | .fetch key =>
    match v.store.get s.state (v.scope r) key with
    | (.error e, state) => { s with state }.finish task (.error e)
    | (.ok none, state) => { s with state }.finish task (.ok none)
    | (.ok (some o), state) =>
      { s with state, fetched := (token, o) :: s.fetched }.proceed task ⟨token, .resolve o⟩

/-- A lookup finds the schema of the object it fetched, and answers. -/
def resolve (v : SlotService σ C R) (s : SlotSession σ R) (r : R) (task : Nat)
    (token : Option String) (o : TaggedObject) : SlotSession σ R :=
  let (record, slot) := v.record r token o
  { s with service := s.service.update (v.withSchemas r slot) }.finish task
    (record.outcome.map some)

def advance (v : SlotService σ C R) (s : SlotSession σ R) (task : Nat) : SlotSession σ R :=
  match s.underway.get? task, s.service.read with
  | some ⟨token, .ask request⟩, .ok r => s.ask v r task token request
  | some ⟨token, .resolve o⟩, .ok r => s.resolve v r task token o
  | _, _ => s

def step (v : SlotService σ C R) (s : SlotSession σ R) : SlotStep σ C → SlotSession σ R
  | .enable settings => s.enable v settings
  | .disable => s.disable
  | .store state => { s with state }
  | .lookup task coordinates context => s.lookup v task coordinates context
  | .advance task => s.advance v task

def run (v : SlotService σ C R) (s : SlotSession σ R) (steps : List (SlotStep σ C)) :
    SlotSession σ R :=
  steps.foldl (step v) s

/-! ## A lookup that nothing comes between -/

/-- What a lookup comes to that fetches the object under a key. -/
def afterFetch (v : SlotService σ C R) (r : R) (token : Option String) (key : Value)
    (service : Lifecycle R) (state : σ) : Served (Lifecycle R) σ (Option Record) :=
  let call := Call.get (v.scope r) key
  match v.store.get state (v.scope r) key with
  | (.error e, state) => ⟨[call], .error e, service, state⟩
  | (.ok none, state) => ⟨[call], .ok none, service, state⟩
  | (.ok (some o), state) =>
    let (record, slot) := v.record r token o
    ⟨call :: record.calls, record.outcome.map some, service.update (v.withSchemas r slot), state⟩

/-- What a lookup comes to that finds the key first. -/
def afterFind (v : SlotService σ C R) (r : R) (token : Option String) (statement column : String)
    (args : Arguments) (service : Lifecycle R) (state : σ) :
    Served (Lifecycle R) σ (Option Record) :=
  let call := Call.query statement column args
  match v.store.queryKeys state statement column args with
  | (.error e, state) => ⟨[call], .error e, service, state⟩
  | (.ok [], state) => ⟨[call], .ok none, service, state⟩
  | (.ok (key :: _), state) =>
    let found := afterFetch v r token key service state
    { found with calls := call :: found.calls }

/-- The lookup of a task is over, with the outcome, the service and the store that are given. -/
structure Ends (s : SlotSession σ R) (task : Nat) (served : Served (Lifecycle R) σ (Option Record))
    (before : List (Nat × Except LookupError (Option Record))) : Prop where
  service : s.service = served.service
  state : s.state = served.store
  answers : s.answers = (task, served.outcome) :: before
  idle : s.underway.get? task = none

variable {v : SlotService σ C R} {s : SlotSession σ R} {task : Nat} {r : R}
  {token : Option String} {store : ObjectStore σ} {coordinates : Coordinates} {context : Context}

theorem ends_finish (s : SlotSession σ R) (task : Nat) (calls : List Call)
    (outcome : Except LookupError (Option Record)) :
    (s.finish task outcome).Ends task ⟨calls, outcome, s.service, s.state⟩ s.answers :=
  ⟨rfl, rfl, rfl, by simp [finish]⟩

theorem Ends.advance {served : Served (Lifecycle R) σ (Option Record)}
    {before : List (Nat × Except LookupError (Option Record))} (h : s.Ends task served before) :
    (s.advance v task).Ends task served before := by
  have hidle : s.advance v task = s := by simp [SlotSession.advance, h.idle]
  rwa [hidle]

theorem advance_proceed_ask (request : Request) (hr : s.service.read = .ok r) :
    (s.proceed task ⟨token, .ask request⟩).advance v task =
      (s.proceed task ⟨token, .ask request⟩).ask v r task token request := by
  simp [advance, proceed, hr]

theorem ends_fetch {key : Value} (hr : s.service.read = .ok r) :
    (((s.proceed task ⟨token, .ask (.fetch key)⟩).advance v task).advance v task).Ends task
      (afterFetch v r token key s.service s.state) s.answers := by
  rw [advance_proceed_ask _ hr]
  simp only [ask, afterFetch, proceed]
  rcases v.store.get s.state (v.scope r) key with ⟨e | _ | o, state⟩
  · exact (ends_finish { s with state, underway := _ } ..).advance
  · exact (ends_finish { s with state, underway := _ } ..).advance
  · simp only [advance, Keyed.get?_insert, hr, resolve, if_true]
    exact ⟨rfl, rfl, rfl, by simp [finish]⟩

theorem ends_find {statement column : String} {args : Arguments} (hr : s.service.read = .ok r) :
    ((((s.proceed task ⟨token, .ask (.find statement column args)⟩).advance v task).advance v
      task).advance v task).Ends task
      (afterFind v r token statement column args s.service s.state) s.answers := by
  rw [advance_proceed_ask _ hr]
  simp only [ask, afterFind, proceed]
  rcases v.store.queryKeys s.state statement column args with ⟨e | _ | ⟨key, _⟩, state⟩
  · exact (ends_finish { s with state, underway := _ } ..).advance.advance
  · exact (ends_finish { s with state, underway := _ } ..).advance.advance
  · let found : Underway := ⟨token, .ask (.find statement column args)⟩
    let asked : SlotSession σ R := { s with state, underway := s.underway.insert task found }
    have hread : asked.service.read = .ok r := hr
    obtain ⟨hservice, hstate, hanswers, hidle⟩ := ends_fetch hread
    exact ⟨hservice, hstate, hanswers, hidle⟩

theorem lookup_of_idle (h : s.underway.get? task = none) :
    s.lookup v task coordinates context =
      match s.service.read with
      | .error e => s.finish task (.error e)
      | .ok r =>
        match v.start r coordinates with
        | .error e => s.finish task (.error e)
        | .ok none => s.finish task (.ok none)
        | .ok (some request) => s.proceed task ⟨correlationToken? context, .ask request⟩ := by
  simp [lookup, Keyed.contains, h]

/-- A lookup by key that runs to its end at once is a lookup in one go. -/
theorem ends_key_lookup {s : SlotSession σ KeyResources} (h : s.underway.get? task = none) :
    (s.run (keyService store)
      [.lookup task coordinates context, .advance task, .advance task, .advance task]).Ends task
      (KeyLookup.lookup store coordinates context s.service s.state) s.answers := by
  simp only [run, List.foldl, step, lookup_of_idle h, KeyLookup.lookup]
  cases hr : s.service.read with
  | error e => exact (ends_finish ..).advance.advance.advance
  | ok r =>
    cases hk : keyValue? coordinates keyCoordinate with
    | none =>
      simp only [keyService, hk, Option.map_none]
      exact (ends_finish ..).advance.advance.advance
    | some key =>
      simp only [keyService, hk, Option.map_some]
      exact (ends_fetch hr).advance

theorem afterFetch_queryService (r : QueryResources) (key : Value) (service : QueryLookup)
    (state : σ) : afterFetch (queryService store) r token key service state =
      QueryLookup.fetch store r key token service state := by
  unfold afterFetch QueryLookup.fetch
  simp only [queryService]
  rcases store.get state r.settings.cacheName key with ⟨e | _ | o, state⟩
  · rfl
  · rfl
  · have hmap (x : Except LookupError Schema) :
        (x.map (Record.build o.view)).map some =
          x.map fun schema => some (Record.build o.view schema) := by
      cases x <;> rfl
    simp only [hmap]

/-- A lookup by query that runs to its end at once is a lookup in one go. -/
theorem ends_query_lookup {s : SlotSession σ QueryResources} (h : s.underway.get? task = none) :
    (s.run (queryService store)
      [.lookup task coordinates context, .advance task, .advance task, .advance task]).Ends task
      (QueryLookup.lookup store coordinates context s.service s.state) s.answers := by
  simp only [run, List.foldl, step, lookup_of_idle h, QueryLookup.lookup]
  cases hr : s.service.read with
  | error e => exact (ends_finish ..).advance.advance.advance
  | ok r =>
    cases ha : Arguments.extract coordinates with
    | error e =>
      simp only [queryService, ha, Except.map]
      exact (ends_finish ..).advance.advance.advance
    | ok args =>
      have hstart : (queryService store).start r coordinates =
          .ok (some (.find r.statement r.column args)) := by
        simp [queryService, ha, Except.map]
      simp only [hstart, ← afterFetch_queryService]
      exact ends_find hr

end SlotSession
end KeyedRecords
