import KeyedRecords.Proofs.Service.Counting
import KeyedRecords.Proofs.Service.Crowd
import KeyedRecords.Proofs.Service.Provenance

/-!
The counters of the cache tell what its lookups did. Each that has a key and arguments is a hit or a
miss, and each miss prepares the statement once. A lookup that has missed and not fetched yet owes
its statement, and so the books balance between any two steps (`Crowd.Balanced`).
-/

namespace KeyedRecords

/-! ## The books of one lookup -/

namespace RowTask

variable {σ : Type} {db : Database σ} {now : Moment} {r : RowResources} {t : RowTask}

def prepares (t : RowTask) : Nat := t.calls.countP Call.isPrepare

/-- Whether the lookup has asked the cache. -/
def hasAsked (settings : RowSettings) (t : RowTask) : Bool :=
  match t.stage with
  | .waiting => false
  | _ => settings.asks t.coordinates

/-- Whether the lookup has missed the cache and not yet prepared its statement. -/
def owes (t : RowTask) : Bool :=
  match t.stage with
  | .missed _ _ => true
  | _ => false

/-- The key is that of the lookup, within the table of the settings. -/
def HasKey (settings : RowSettings) (t : RowTask) (k : CacheKey) : Prop :=
  ∃ key, keyValue? t.coordinates settings.keyName = some key ∧ k = ⟨settings.tableName, key⟩

/-- What holds of a lookup at each stage. -/
def Valid (settings : RowSettings) (t : RowTask) : Prop :=
  match t.stage with
  | .waiting => t.prepares = 0
  | .missed k args =>
    t.prepares = 0 ∧ t.HasKey settings k ∧ Arguments.extract t.coordinates = .ok args
  | .fetched k _ => t.prepares = 1 ∧ t.HasKey settings k
  | .done _ => t.prepares ≤ 1

theorem prepares_le {settings : RowSettings} (h : t.Valid settings) : t.prepares ≤ 1 := by
  unfold Valid at h
  split at h <;> omega

@[simp] theorem coordinates_advance (db : Database σ) (now : Moment) (r : RowResources)
    (t : RowTask) : (t.advance db now r).1.coordinates = t.coordinates := by
  unfold advance
  split
  · split <;> rfl
  · rfl
  · rfl
  · rfl

theorem advance_valid (h : t.Valid r.settings) : (t.advance db now r).1.Valid r.settings := by
  obtain ⟨coordinates, calls, stage⟩ := t
  cases stage with
  | waiting =>
    have hnone : calls.countP Call.isPrepare = 0 := h
    have hle : calls.countP Call.isPrepare ≤ 1 := by omega
    rcases RowLookup.ask_cases coordinates now r with ⟨-, ha⟩ | ⟨_, _, -, -, ha⟩ |
      ⟨_, _, _, -, -, -, ha⟩ | ⟨key, args, hk, hargs, -, ha⟩ <;> simp only [advance, ha]
    · exact hle
    · exact hle
    · exact hle
    · exact ⟨hnone, ⟨key, hk, rfl⟩, hargs⟩
  | missed k args =>
    obtain ⟨hnone, hkey, -⟩ : calls.countP Call.isPrepare = 0 ∧ _ := h
    refine ⟨?_, hkey⟩
    have hone := RowLookup.prepares_fetch db r.statement k.key args
    change (calls ++ _).countP Call.isPrepare = 1
    rw [List.countP_append, hnone, Nat.zero_add]
    exact hone
  | fetched k outcome => exact Nat.le_of_eq h.1
  | done answer => exact h

/-- What a step adds to the counters of the cache it adds to the books of the lookup. -/
theorem advance_balance (db : Database σ) (now : Moment) (r : RowResources) (t : RowTask) :
    let next := t.advance db now r
    next.2.stats.hits + next.2.stats.misses + (t.hasAsked r.settings).toNat =
        r.cache.stats.hits + r.cache.stats.misses + (next.1.hasAsked r.settings).toNat ∧
      next.2.stats.misses + (t.prepares + t.owes.toNat) =
        r.cache.stats.misses + (next.1.prepares + next.1.owes.toNat) := by
  intro next
  obtain ⟨coordinates, calls, stage⟩ := t
  cases stage with
  | waiting =>
    rcases RowLookup.ask_cases coordinates now r with ⟨hk, ha⟩ | ⟨_, _, hk, hargs, ha⟩ |
      ⟨key, args, _, hk, hargs, hg, ha⟩ | ⟨key, args, hk, hargs, hg, ha⟩
    · have hasks : ¬r.settings.asks coordinates := by simp [RowSettings.asks_iff, hk]
      simp [next, advance, ha, hasAsked, owes, hasks, prepares]
    · have hasks : ¬r.settings.asks coordinates := by simp [RowSettings.asks_iff, hargs]
      simp [next, advance, ha, hasAsked, owes, hasks, prepares]
    · have hasks : r.settings.asks coordinates := RowSettings.asks_iff.2 ⟨⟨key, hk⟩, args, hargs⟩
      obtain ⟨hhits, hmisses⟩ := RecordCache.stats_get_of_some hg
      simp only [next, advance, ha, hasAsked, owes, hasks, prepares, hhits, hmisses,
        Bool.toNat_true, Bool.toNat_false, and_true]
      omega
    · have hasks : r.settings.asks coordinates := RowSettings.asks_iff.2 ⟨⟨key, hk⟩, args, hargs⟩
      obtain ⟨hhits, hmisses⟩ := RecordCache.stats_get_of_none hg
      simp only [next, advance, ha, hasAsked, owes, hasks, prepares, hhits, hmisses,
        Bool.toNat_true, Bool.toNat_false]
      omega
  | missed k args =>
    have hone := RowLookup.prepares_fetch db r.statement k.key args
    simp only [Traced.prepares] at hone
    refine ⟨rfl, ?_⟩
    simp only [next, advance, owes, prepares, List.countP_append, hone, Bool.toNat_true,
      Bool.toNat_false, Nat.add_zero]
  | fetched k outcome =>
    obtain ⟨hhits, hmisses⟩ : (RowLookup.keep r.cache now k outcome).2.SameLookups r.cache :=
      RowLookup.sameLookups_keep
    simp only [next, advance, hhits, hmisses]
    exact ⟨rfl, rfl⟩
  | done answer => exact ⟨rfl, rfl⟩

end RowTask

/-! ## The books of all lookups -/

section Splits

variable {α : Type} {xs : List α}

theorem split_of_getElem? {i : Nat} {x : α} (h : xs[i]? = some x) (y : α) :
    ∃ before after, xs = before ++ x :: after ∧ xs.set i y = before ++ y :: after := by
  obtain ⟨hi, rfl⟩ := List.getElem?_eq_some_iff.1 h
  obtain ⟨before, after, hxs, -, hset⟩ := @List.exists_of_set α i y xs hi
  exact ⟨before, after, hxs, hset⟩

theorem countP_split (p : α → Bool) (before after : List α) (x : α) :
    (before ++ x :: after).countP p = before.countP p + after.countP p + (p x).toNat := by
  rw [List.countP_append, List.countP_cons, Nat.add_assoc]
  cases p x <;> rfl

end Splits

namespace Crowd

variable {σ : Type} {s : Crowd}

def stats (s : Crowd) : CacheStats := s.resources.cache.stats

/-- All calls that the lookups have made. -/
def calls (s : Crowd) : List Call := s.tasks.flatMap (·.calls)

def prepares (s : Crowd) : Nat := s.calls.countP Call.isPrepare

theorem prepares_split (before after : List RowTask) (t : RowTask) :
    ((before ++ t :: after).flatMap (·.calls)).countP Call.isPrepare =
      (before.flatMap (·.calls)).countP Call.isPrepare +
        (after.flatMap (·.calls)).countP Call.isPrepare + t.prepares := by
  rw [List.flatMap_append, List.flatMap_cons, List.countP_append, List.countP_append,
    RowTask.prepares]
  omega

/-- What holds between any two steps. -/
structure Balanced (settings : RowSettings) (lookups : List Coordinates) (s : Crowd) : Prop where
  settings_eq : s.resources.settings = settings
  statement_eq : s.resources.statement = settings.query.text
  coordinates_eq : s.tasks.map (·.coordinates) = lookups
  valid : ∀ t ∈ s.tasks, t.Valid settings
  asked : s.stats.hits + s.stats.misses = s.tasks.countP (·.hasAsked settings)
  owed : s.stats.misses = s.prepares + s.tasks.countP (·.owes)

theorem balanced_new (settings : RowSettings) (now : Moment) (lookups : List Coordinates) :
    (new settings now lookups).Balanced settings lookups := by
  refine ⟨rfl, rfl, ?_, ?_, ?_, ?_⟩
  · simp [new, RowTask.new, Function.comp_def]
  · intro t ht
    obtain ⟨coordinates, -, rfl⟩ := List.mem_map.1 ht
    rfl
  · have hnone : (lookups.map RowTask.new).countP (·.hasAsked settings) = 0 := by
      simp [List.countP_map, RowTask.new, RowTask.hasAsked, Function.comp_def]
    exact hnone.symm
  · have howes : (lookups.map RowTask.new).countP (·.owes) = 0 := by
      simp [List.countP_map, RowTask.new, RowTask.owes, Function.comp_def]
    have hcalls : (lookups.map RowTask.new).flatMap (·.calls) = [] := by
      simp [RowTask.new]
    simp only [prepares, calls, new, hcalls, howes]
    rfl

namespace Balanced

variable {settings : RowSettings} {lookups : List Coordinates}

theorem of_eq (h : s.Balanced settings lookups) {s' : Crowd} (hr : s'.resources = s.resources)
    (ht : s'.tasks = s.tasks) : s'.Balanced settings lookups := by
  obtain ⟨resources, now, tasks⟩ := s'
  subst hr ht
  exact ⟨h.settings_eq, h.statement_eq, h.coordinates_eq, h.valid, h.asked, h.owed⟩

theorem step (h : s.Balanced settings lookups) (x : CrowdStep σ) :
    (s.step x).Balanced settings lookups := by
  obtain ⟨hr, ht⟩ | ⟨task, db, t, rfl, ht, hstep⟩ := s.step_cases x
  · exact h.of_eq hr ht
  · obtain ⟨rfl, hstatement, hcoordinates, hvalid, hasked, howed⟩ := h
    obtain ⟨hbalance, hmisses⟩ := t.advance_balance db s.now s.resources
    have hnext : (t.advance db s.now s.resources).1.Valid s.resources.settings :=
      RowTask.advance_valid (hvalid t (List.mem_of_getElem? ht))
    obtain ⟨before, after, htasks, hset⟩ :=
      split_of_getElem? ht (t.advance db s.now s.resources).1
    rw [hstep, hset]
    rw [htasks] at hcoordinates hvalid
    rw [htasks, countP_split] at hasked
    rw [prepares, calls, htasks, prepares_split, countP_split] at howed
    simp only [stats] at hasked howed
    refine ⟨rfl, hstatement, ?_, ?_, ?_, ?_⟩
    · simpa using hcoordinates
    · intro t' ht'
      simp only [List.mem_append, List.mem_cons] at hvalid ht'
      rcases ht' with ht' | rfl | ht'
      · exact hvalid t' (.inl ht')
      · exact hnext
      · exact hvalid t' (.inr (.inr ht'))
    · rw [countP_split]
      simp only [stats, withCache]
      omega
    · rw [prepares, calls, prepares_split, countP_split]
      simp only [stats, withCache]
      omega

theorem run (h : s.Balanced settings lookups) (steps : List (CrowdStep σ)) :
    (s.run steps).Balanced settings lookups := by
  induction steps generalizing s with
  | nil => exact h
  | cons x rest ih => exact ih (h.step x)

theorem asked_of_finished (h : s.Balanced settings lookups) (hs : s.Finished) :
    s.stats.hits + s.stats.misses = lookups.countP settings.asks := by
  rw [h.asked, ← h.coordinates_eq, List.countP_map]
  refine List.countP_congr fun t ht => ?_
  obtain ⟨answer, hdone⟩ := hs t ht
  simp [RowTask.hasAsked, hdone]

theorem prepares_of_finished (h : s.Balanced settings lookups) (hs : s.Finished) :
    s.prepares = s.stats.misses := by
  have howes : s.tasks.countP (·.owes) = 0 := by
    refine List.countP_eq_zero.2 fun t ht => ?_
    obtain ⟨answer, hdone⟩ := hs t ht
    simp [RowTask.owes, hdone]
  rw [h.owed, howes, Nat.add_zero]

end Balanced

end Crowd

/-! ## Where the records come from -/

namespace RowTask

variable {σ : Type} {db : Database σ} {r : RowResources} {t : RowTask}
  {P : CacheKey → Record → Prop}

/-- A record that the lookup has, fetched or answered, is one for its key. -/
structure Shows (P : CacheKey → Record → Prop) (settings : RowSettings) (t : RowTask) : Prop where
  fetched : ∀ k record, t.stage = .fetched k (.ok (some record)) → P k record
  done : ∀ record, t.stage = .done (.outcome (.ok (some record))) →
    ∃ k, t.HasKey settings k ∧ P k record

theorem Shows.mono {Q : CacheKey → Record → Prop} {settings : RowSettings}
    (h : t.Shows P settings) (hPQ : ∀ k record, P k record → Q k record) : t.Shows Q settings where
  fetched k record hs := hPQ k record (h.fetched k record hs)
  done record hs := by
    obtain ⟨k, hk, hP⟩ := h.done record hs
    exact ⟨k, hk, hPQ k record hP⟩

theorem shows_done {settings : RowSettings} {coordinates : Coordinates} {calls : List Call}
    {answer : RowLookup.Answer}
    (h : ∀ record, answer = .outcome (.ok (some record)) →
      ∃ k, HasKey settings ⟨coordinates, calls, .done answer⟩ k ∧ P k record) :
    Shows P settings ⟨coordinates, calls, .done answer⟩ where
  fetched k record hs := by cases hs
  done record hs := h record (RowStage.done.inj hs)

/-- If the cache holds records for their keys only, and so does what the lookup may fetch now, then
a step leaves no other records. -/
theorem advance_shows {settings : RowSettings} (now : Moment) (hr : r.settings = settings)
    (ht : t.Valid settings) (h : t.Shows P settings)
    (hcache : ∀ k e, r.cache.entries.get? k = some e → P k e.record)
    (hfetch : ∀ k args record, t.stage = .missed k args →
      (RowLookup.fetch db r.statement k.key args).outcome = .ok (some record) → P k record) :
    (t.advance db now r).1.Shows P settings ∧
      ∀ k e, (t.advance db now r).2.entries.get? k = some e → P k e.record := by
  subst hr
  obtain ⟨coordinates, calls, stage⟩ := t
  cases stage with
  | waiting =>
    have hasked : ∀ k e, (RowLookup.ask coordinates now r).2.entries.get? k = some e →
        P k e.record := by
      intro k e he
      obtain ⟨old, hold, hrecord⟩ := RowLookup.entry_of_ask he
      exact hrecord ▸ hcache k old hold
    rcases RowLookup.ask_cases coordinates now r with ⟨-, ha⟩ | ⟨_, _, -, -, ha⟩ |
      ⟨key, _, record, hk, -, hg, ha⟩ | ⟨_, _, -, -, -, ha⟩ <;> rw [ha] at hasked <;>
      simp only [advance, ha] <;> refine ⟨?_, hasked⟩
    · refine shows_done fun record hs => ?_
      cases hs
    · refine shows_done fun record hs => ?_
      cases hs
    · refine shows_done fun record hs => ?_
      cases hs
      obtain ⟨e, -, he, hrecord⟩ := RecordCache.entry_of_hit hg
      exact ⟨_, ⟨key, hk, rfl⟩, hrecord ▸ hcache _ e he⟩
    · constructor
      · intro k record hs
        cases hs
      · intro record hs
        cases hs
  | missed k args =>
    refine ⟨⟨?_, ?_⟩, hcache⟩
    · intro k' record hs
      obtain ⟨rfl, hrecord⟩ := RowStage.fetched.inj hs
      exact hfetch k args record rfl hrecord
    · intro record hs
      cases hs
  | fetched k outcome =>
    refine ⟨shows_done fun record hs => ?_, ?_⟩
    · have houtcome : outcome = .ok (some record) := RowLookup.outcome_of_keep hs
      exact ⟨k, ht.2, h.fetched k record (houtcome ▸ rfl)⟩
    · intro k' e he
      rcases RowLookup.entry_of_keep he with he | ⟨rfl, houtcome⟩
      · exact hcache k' e he
      · exact h.fetched k' e.record (houtcome ▸ rfl)
  | done answer => exact ⟨h, hcache⟩

end RowTask

namespace Crowd

variable {σ : Type} {start : Crowd} {past : List (CrowdStep σ)} {k : CacheKey} {record : Record}

/-- Some lookup of the key missed the cache, its statement then selected a row, and the record is
that of the row. -/
def Fetched (start : Crowd) (past : List (CrowdStep σ)) (k : CacheKey) (record : Record) : Prop :=
  ∃ earlier task db later t args row, past = earlier ++ .advance task db :: later ∧
    (start.run earlier).tasks[task]? = some t ∧ t.stage = .missed k args ∧
    t.HasKey start.resources.settings k ∧ Arguments.extract t.coordinates = .ok args ∧
    db.respond start.resources.settings.query.text (args.map (·.2)) = .ok (some row) ∧
    (inferRecord db.vocabulary none row.view).outcome = .ok record

theorem Fetched.snoc (h : start.Fetched past k record) (x : CrowdStep σ) :
    start.Fetched (past ++ [x]) k record := by
  obtain ⟨earlier, task, db, later, t, args, row, rfl, h⟩ := h
  exact ⟨earlier, task, db, later ++ [x], t, args, row, by simp, h⟩

/-- Every record in the cache and with a lookup was fetched for its key. -/
structure Backed (start : Crowd) (past : List (CrowdStep σ)) : Prop where
  cached : ∀ k e, (start.run past).resources.cache.entries.get? k = some e →
    start.Fetched past k e.record
  shown : ∀ t ∈ (start.run past).tasks, t.Shows (start.Fetched past) start.resources.settings

theorem fetched_of_advance {task : Nat} {t : RowTask} {args : Arguments} {db : Database σ}
    (hs : t.Valid start.resources.settings) (ht : (start.run past).tasks[task]? = some t)
    (hstage : t.stage = .missed k args)
    (hfetch : (RowLookup.fetch db start.resources.settings.query.text k.key args).outcome =
      .ok (some record)) : start.Fetched (past ++ [.advance task db]) k record := by
  obtain ⟨row, hrow, hrecord⟩ := RowLookup.fetch_eq_some_iff.1 hfetch
  simp only [RowTask.Valid, hstage] at hs
  obtain ⟨-, hkey, hargs⟩ := hs
  exact ⟨past, task, db, [], t, args, row, rfl, ht, hstage, hkey, hargs, hrow, hrecord⟩

namespace Backed

variable {lookups : List Coordinates}

theorem snoc (hs : (start.run past).Balanced start.resources.settings lookups)
    (h : start.Backed past) (x : CrowdStep σ) : start.Backed (past ++ [x]) := by
  have hcached : ∀ k e, (start.run past).resources.cache.entries.get? k = some e →
      start.Fetched (past ++ [x]) k e.record := fun k e he => (h.cached k e he).snoc x
  have hshown : ∀ t ∈ (start.run past).tasks,
      t.Shows (start.Fetched (past ++ [x])) start.resources.settings :=
    fun t ht => (h.shown t ht).mono fun _ _ hf => hf.snoc x
  have hrun : start.run (past ++ [x]) = (start.run past).step x := run_append ..
  obtain ⟨hr, ht⟩ | ⟨task, db, t, rfl, ht, hstep⟩ := (start.run past).step_cases x
  · constructor
    · rw [hrun, hr]
      exact hcached
    · rw [hrun, ht]
      exact hshown
  · have hmem : t ∈ (start.run past).tasks := List.mem_of_getElem? ht
    have hvalid : t.Valid start.resources.settings := hs.valid t hmem
    have hfetch : ∀ k args record, t.stage = .missed k args →
        (RowLookup.fetch db (start.run past).resources.statement k.key args).outcome =
          .ok (some record) → start.Fetched (past ++ [.advance task db]) k record := by
      intro k args record hstage hrecord
      rw [hs.statement_eq] at hrecord
      exact fetched_of_advance hvalid ht hstage hrecord
    obtain ⟨hnext, hcache⟩ := RowTask.advance_shows (start.run past).now hs.settings_eq hvalid
      (hshown t hmem) hcached hfetch
    constructor
    · rw [hrun, hstep]
      exact hcache
    · rw [hrun, hstep]
      intro t' ht'
      rcases List.mem_or_eq_of_mem_set ht' with ht' | rfl
      · exact hshown t' ht'
      · exact hnext

theorem run (hs : (start.run past).Balanced start.resources.settings lookups)
    (h : start.Backed past) (steps : List (CrowdStep σ)) : start.Backed (past ++ steps) := by
  induction steps generalizing past with
  | nil => rwa [List.append_nil]
  | cons x rest ih =>
    have hnext : (start.run (past ++ [x])).Balanced start.resources.settings lookups := by
      rw [run_append]
      exact hs.run [x]
    rw [List.append_cons]
    exact ih hnext (h.snoc hs x)

end Backed

theorem backed_new (settings : RowSettings) (now : Moment) (lookups : List Coordinates)
    (steps : List (CrowdStep σ)) : (new settings now lookups).Backed steps := by
  have hnew : (new settings now lookups).Backed ([] : List (CrowdStep σ)) := by
    constructor
    · intro k e he
      cases he
    · intro t ht
      obtain ⟨coordinates, -, rfl⟩ := List.mem_map.1 ht
      constructor
      · intro k record hs
        cases hs
      · intro record hs
        cases hs
  exact hnew.run (balanced_new settings now lookups) steps

/-- When all lookups of a service are over, in whatever order they made their steps: each of them
that had a key and arguments is one hit or one miss, as many statements were prepared as there were
misses, and no more than one by any lookup, and each record that is answered was made, since the
service was enabled, of a row that a lookup of the same key found in the table. -/
theorem lookups_accounted (settings : RowSettings) (now : Moment) (lookups : List Coordinates)
    (steps : List (CrowdStep σ)) :
    let start := new settings now lookups
    let s := start.run steps
    s.Finished →
      s.tasks.map (·.coordinates) = lookups ∧
      s.stats.hits + s.stats.misses = lookups.countP settings.asks ∧
      s.prepares = s.stats.misses ∧
      (∀ t ∈ s.tasks, t.prepares ≤ 1) ∧
      ∀ t ∈ s.tasks, ∀ record, t.stage = .done (.outcome (.ok (some record))) →
        ∃ k, t.HasKey settings k ∧ start.Fetched steps k record := by
  intro start s hs
  have h : s.Balanced settings lookups := (balanced_new settings now lookups).run steps
  refine ⟨h.coordinates_eq, h.asked_of_finished hs, h.prepares_of_finished hs, ?_, ?_⟩
  · intro t ht
    exact RowTask.prepares_le (h.valid t ht)
  · intro t ht
    exact ((backed_new settings now lookups steps).shown t ht).done

/-! Of four lookups, one without a key, two miss the same key at once. One of them finds no row, and
the record of the other is there for the third. -/

open RowSession (echo echoed columnSettings trueKey)

def vacant : Database String := { echo with fetchFirst := fun _ => .ok none }

def asking : List Coordinates := [trueKey, trueKey, trueKey, .empty]

def racing : List (CrowdStep String) :=
  [.advance 0 echo, .advance 1 echo, .advance 1 vacant, .advance 0 echo, .advance 0 echo,
    .advance 1 echo, .advance 2 echo, .advance 3 echo]

def raced : Crowd := (new (columnSettings "a") 0 asking).run racing

theorem lookups_accounted_racing :
    raced.Finished ∧ raced.stats.hits = 1 ∧ raced.stats.misses = 2 ∧
      raced.stats.hits + raced.stats.misses = asking.countP (columnSettings "a").asks ∧
      raced.prepares = raced.stats.misses ∧
      ∃ k, (new (columnSettings "a") 0 asking).Fetched racing k
        (echoed "SELECT a FROM t WHERE id = ?") := by
  have hstages : raced.tasks.map (·.stage) =
      [.done (.outcome (.ok (some (echoed "SELECT a FROM t WHERE id = ?")))),
        .done (.outcome (.ok none)),
        .done (.outcome (.ok (some (echoed "SELECT a FROM t WHERE id = ?")))),
        .done (.outcome (.ok none))] := by
    with_unfolding_all rfl
  have hfinished : raced.Finished := by
    intro t ht
    have hstage : t.stage ∈ raced.tasks.map (·.stage) := List.mem_map_of_mem ht
    rw [hstages] at hstage
    simp only [List.mem_cons, List.not_mem_nil, or_false] at hstage
    rcases hstage with h | h | h | h <;> exact ⟨_, h⟩
  obtain ⟨-, hasked, hprepared, -, hfetched⟩ :=
    lookups_accounted (columnSettings "a") 0 asking racing hfinished
  have hhit : RowStage.done (.outcome (.ok (some (echoed "SELECT a FROM t WHERE id = ?")))) ∈
      raced.tasks.map (·.stage) := by
    rw [hstages]
    exact List.mem_cons_self
  obtain ⟨t, ht, hstage⟩ := List.mem_map.1 hhit
  obtain ⟨k, -, hk⟩ := hfetched t ht _ hstage
  exact ⟨hfinished, by with_unfolding_all rfl, by with_unfolding_all rfl, hasked, hprepared, k, hk⟩

end Crowd
end KeyedRecords
