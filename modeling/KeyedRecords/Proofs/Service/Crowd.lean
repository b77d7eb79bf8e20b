import KeyedRecords.Proofs.Service.RowRequests

/-!
Lookups of many tasks on one table lookup that stays enabled. Each lookup asks the cache, fetches
the row if it has to, and stores its record; between any two of these other lookups go on, the clock
may show any other moment, and the database may be another one.
-/

namespace KeyedRecords

/-- How far a lookup has got. -/
inductive RowStage where
  | waiting
  | missed (key : CacheKey) (args : Arguments)
  | fetched (key : CacheKey) (outcome : Except LookupError (Option Record))
  | done (answer : RowLookup.Answer)

/-- A lookup with the calls that it has made. -/
structure RowTask where
  coordinates : Coordinates
  calls : List Call
  stage : RowStage

namespace RowTask

variable {σ : Type}

def new (coordinates : Coordinates) : RowTask := ⟨coordinates, [], .waiting⟩

/-- The next step of a lookup, and the cache after it. -/
def advance (db : Database σ) (now : Moment) (r : RowResources) (t : RowTask) :
    RowTask × RecordCache :=
  match t.stage with
  | .waiting =>
    match RowLookup.ask t.coordinates now r with
    | (.answered outcome, cache) => ({ t with stage := .done (.outcome outcome) }, cache)
    | (.missed key args, cache) => ({ t with stage := .missed key args }, cache)
  | .missed key args =>
    let fetched := RowLookup.fetch db r.statement key.key args
    ({ t with calls := t.calls ++ fetched.calls, stage := .fetched key fetched.outcome }, r.cache)
  | .fetched key outcome =>
    let (answer, cache) := RowLookup.keep r.cache now key outcome
    ({ t with stage := .done answer }, cache)
  | .done _ => (t, r.cache)

end RowTask

/-- The next step of a task, made with the database as it is then, or a new reading of the clock. -/
inductive CrowdStep (σ : Type) where
  | clock (now : Moment)
  | advance (task : Nat) (db : Database σ)

structure Crowd where
  resources : RowResources
  now : Moment
  tasks : List RowTask

namespace Crowd

variable {σ : Type}

/-- A service that was enabled with a new cache, and the lookups that it will get. -/
def new (settings : RowSettings) (now : Moment) (lookups : List Coordinates) : Crowd :=
  ⟨RowLookup.resources settings none, now, lookups.map .new⟩

def withCache (s : Crowd) (cache : RecordCache) : Crowd :=
  { s with resources := { s.resources with cache } }

def step (s : Crowd) : CrowdStep σ → Crowd
  | .clock now => { s with now }
  | .advance task db =>
    match s.tasks[task]? with
    | none => s
    | some t =>
      let (t, cache) := t.advance db s.now s.resources
      { s.withCache cache with tasks := s.tasks.set task t }

def run (s : Crowd) (steps : List (CrowdStep σ)) : Crowd := steps.foldl step s

/-- All lookups are over. -/
def Finished (s : Crowd) : Prop := ∀ t ∈ s.tasks, ∃ answer, t.stage = .done answer

variable {s : Crowd} {db : Database σ} {task : Nat} {t : RowTask}

/-- Whatever the service was before, there is one way to be enabled with a new cache. -/
theorem resources_new {settings : RowSettings} {service : RowLookup} {r : RowResources}
    (h : (RowLookup.enable db settings service).2.read = .ok r)
    (hcache : r.cache = .new settings.cache) (now : Moment) (lookups : List Coordinates) :
    r = (new settings now lookups).resources := by
  rcases RowLookup.enable_cases db settings service with ⟨-, -, he⟩ | ⟨-, he⟩ <;>
    rw [he] at h <;> cases h
  simp only [RowLookup.resources] at hcache
  simp only [new, RowLookup.resources, hcache]
  rfl

theorem run_append (s : Crowd) (steps steps' : List (CrowdStep σ)) :
    s.run (steps ++ steps') = (s.run steps).run steps' := List.foldl_append

theorem step_advance (h : s.tasks[task]? = some t) :
    s.step (.advance task db) =
      { s.withCache (t.advance db s.now s.resources).2 with
        tasks := s.tasks.set task (t.advance db s.now s.resources).1 } := by
  simp only [step, h]

/-- Every step leaves the service and the lookups alone or takes one lookup a step further. -/
theorem step_cases (s : Crowd) (x : CrowdStep σ) :
    ((s.step x).resources = s.resources ∧ (s.step x).tasks = s.tasks) ∨
    ∃ task db t, x = .advance task db ∧ s.tasks[task]? = some t ∧
      s.step x = { s.withCache (t.advance db s.now s.resources).2 with
        tasks := s.tasks.set task (t.advance db s.now s.resources).1 } := by
  cases x with
  | clock now => exact .inl ⟨rfl, rfl⟩
  | advance task db =>
    cases ht : s.tasks[task]? with
    | none => exact .inl (by simp only [step, ht, and_self])
    | some t => exact .inr ⟨task, db, t, rfl, ht, step_advance ht⟩

/-- A task that has made a step makes the next one. -/
theorem step_set (h : task < s.tasks.length) :
    { s with tasks := s.tasks.set task t }.step (.advance task db) =
      { s.withCache (t.advance db s.now s.resources).2 with
        tasks := s.tasks.set task (t.advance db s.now s.resources).1 } := by
  have ht : ({ s with tasks := s.tasks.set task t } : Crowd).tasks[task]? = some t :=
    List.getElem?_set_self h
  rw [step_advance ht]
  simp only [withCache, List.set_set]

/-- A lookup that nothing comes between is a lookup in one go. -/
theorem run_alone {coordinates : Coordinates} (h : s.tasks[task]? = some (.new coordinates)) :
    let served := RowLookup.serve db coordinates s.now s.resources
    s.run [.advance task db, .advance task db, .advance task db] =
      { s.withCache served.2.2 with
        tasks := s.tasks.set task ⟨coordinates, served.1, .done served.2.1⟩ } := by
  intro served
  obtain ⟨hlt, -⟩ := List.getElem?_eq_some_iff.1 h
  have hnext (cache : RecordCache) (t : RowTask) :
      { s.withCache cache with tasks := s.tasks.set task t }.step (.advance task db) =
        { s.withCache (t.advance db s.now { s.resources with cache }).2 with
          tasks := s.tasks.set task (t.advance db s.now { s.resources with cache }).1 } :=
    step_set (s := s.withCache cache) hlt
  simp only [run, List.foldl_cons, List.foldl_nil, step_advance h, hnext]
  rcases ha : RowLookup.ask coordinates s.now s.resources with ⟨outcome | ⟨key, args⟩, cache⟩ <;>
    simp [RowTask.advance, RowTask.new, ha, served, RowLookup.serve]

end Crowd
end KeyedRecords
