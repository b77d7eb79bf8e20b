import KeyedRecords.Proofs.Service.Counting
import KeyedRecords.Proofs.Service.Provenance
import KeyedRecords.Service.ByKey
import KeyedRecords.Service.ByQuery
import KeyedRecords.Store.Memory

/-!
Lookups that find nothing. One that is refused before its store is asked leaves everything as it is.
A lookup in a table that is not refused and finds no row, or fails, has asked the cache, where an
expired entry goes, and has stored nothing (`RecordCache.Missed`).
-/

namespace KeyedRecords

/-! ## Refusals -/

theorem keyValue?_eq_none_iff {coordinates : Coordinates} {name : String} :
    keyValue? coordinates name = none ↔
      ∀ v, coordinates.get? name = some v → v.isBlank = true := by
  simp [keyValue?, Option.filter_eq_none_iff]

theorem keyValue?_eq_some_iff {coordinates : Coordinates} {name : String} {v : Value} :
    keyValue? coordinates name = some v ↔
      coordinates.get? name = some v ∧ v.isBlank = false := by
  simp [keyValue?, Option.filter_eq_some_iff]

/-- A lookup is refused: its service is not enabled, the key that it requires is missing or blank,
or its arguments are not in order. Which key is required, if any, depends on what an enabled service
holds; not every service takes arguments. -/
inductive Refused {R : Type} (service : Lifecycle R) (keyName : R → Option String)
    (takesArguments : Bool) (coordinates : Coordinates) :
    Except LookupError (Option Record) → Prop
  | disabled (h : service.resources = none) :
    Refused service keyName takesArguments coordinates (.error (.notReady service.phase))
  | keyless {r : R} {name : String} (h : service.resources = some r) (hname : keyName r = some name)
      (hkey : ∀ v, coordinates.get? name = some v → v.isBlank = true) :
    Refused service keyName takesArguments coordinates (.ok none)
  | disordered {r : R} {e : LookupError} (h : service.resources = some r)
      (hkey : ∀ name, keyName r = some name →
        ∃ v, coordinates.get? name = some v ∧ v.isBlank = false)
      (htakes : takesArguments = true) (hargs : Arguments.extract coordinates = .error e) :
    Refused service keyName takesArguments coordinates (.error e)

/-- The coordinates are refused with the outcome. -/
def KeyLookup.Refuses (service : KeyLookup) :
    Coordinates → Except LookupError (Option Record) → Prop :=
  Refused service (fun _ => some keyCoordinate) false

def QueryLookup.Refuses (service : QueryLookup) :
    Coordinates → Except LookupError (Option Record) → Prop :=
  Refused service (fun _ => none) true

def RowLookup.Refuses (service : RowLookup) :
    Coordinates → Except LookupError (Option Record) → Prop :=
  Refused service (fun r => some r.settings.keyName) true

namespace Lifecycle

variable {R : Type} {l : Lifecycle R} {r r' : R}

theorem read_of_none (h : l.resources = none) : l.read = .error (.notReady l.phase) := by
  rw [read, h]

theorem update_eq (h : l.resources = some r) : l.update r' = ⟨some r', l.phase⟩ := by
  rw [update, h, Option.map_some]

theorem update_self (h : l.resources = some r) : l.update r = l := by
  rw [update_eq h, ← h]

end Lifecycle

section Refusals

variable {σ : Type} {coordinates : Coordinates} {outcome : Except LookupError (Option Record)}

theorem KeyLookup.lookup_of_refuses {service : KeyLookup}
    (h : service.Refuses coordinates outcome)
    (store : ObjectStore σ) (context : Context) (s : σ) :
    lookup store coordinates context service s = ⟨[], outcome, service, s⟩ := by
  cases h with
  | disabled h => simp only [lookup, Lifecycle.read_of_none h]
  | keyless h hname hkey =>
    cases hname
    simp only [lookup, Lifecycle.read_eq_ok_iff.2 h, keyValue?_eq_none_iff.2 hkey]
  | disordered h hkey htakes hargs => cases htakes

theorem QueryLookup.lookup_of_refuses {service : QueryLookup}
    (h : service.Refuses coordinates outcome)
    (store : ObjectStore σ) (context : Context) (s : σ) :
    lookup store coordinates context service s = ⟨[], outcome, service, s⟩ := by
  cases h with
  | disabled h => simp only [lookup, Lifecycle.read_of_none h]
  | keyless h hname hkey => cases hname
  | disordered h hkey htakes hargs => simp only [lookup, Lifecycle.read_eq_ok_iff.2 h, hargs]

theorem RowLookup.lookup_of_refuses {service : RowLookup}
    (h : service.Refuses coordinates outcome)
    (db : Database σ) (now : Moment) :
    lookup db coordinates now service = ([], .outcome outcome, service) := by
  cases h with
  | disabled h => simp only [lookup, Lifecycle.read_of_none h]
  | keyless h hname hkey =>
    cases hname
    simp only [lookup, Lifecycle.read_eq_ok_iff.2 h, serve, ask, keyValue?_eq_none_iff.2 hkey,
      Lifecycle.update_self h]
  | disordered h hkey htakes hargs =>
    obtain ⟨v, hv⟩ := hkey _ rfl
    simp only [lookup, Lifecycle.read_eq_ok_iff.2 h, serve, ask, keyValue?_eq_some_iff.2 hv, hargs,
      Lifecycle.update_self h]

/-- A lookup in a table that is not refused has a key and arguments. -/
theorem RowLookup.asks_of_not_refuses {service : Lifecycle RowResources}
    (h : ¬∃ refusal, RowLookup.Refuses service coordinates refusal) :
    ∃ r key args, service.resources = some r ∧
      keyValue? coordinates r.settings.keyName = some key ∧
      Arguments.extract coordinates = .ok args := by
  cases hr : service.resources with
  | none => exact (h ⟨_, .disabled hr⟩).elim
  | some r =>
    cases hk : keyValue? coordinates r.settings.keyName with
    | none => exact (h ⟨_, .keyless hr rfl (keyValue?_eq_none_iff.1 hk)⟩).elim
    | some key =>
      cases hargs : Arguments.extract coordinates with
      | error e =>
        have hkey : ∀ name, some r.settings.keyName = some name →
            ∃ v, coordinates.get? name = some v ∧ v.isBlank = false := by
          rintro name ⟨⟩
          exact ⟨key, keyValue?_eq_some_iff.1 hk⟩
        exact (h ⟨_, .disordered hr hkey rfl hargs⟩).elim
      | ok args => exact ⟨r, key, args, rfl, hk, rfl⟩

end Refusals

/-! ## Misses -/

namespace RecordCache

variable {c : RecordCache} {now : Moment} {k : CacheKey}

/-- What a get leaves that finds no record under `k`. -/
inductive Missed (c : RecordCache) (now : Moment) (k : CacheKey) : RecordCache → Prop
  | absent (h : c.entries.get? k = none) :
    Missed c now k { c with stats := { c.stats with misses := c.stats.misses + 1 } }
  | expired {e : CacheEntry} (h : c.entries.get? k = some e) (he : e.isExpired now = true) :
    Missed c now k
      { c with
        entries := c.entries.erase k
        recency := c.recency.filter (· ≠ k)
        stats := { c.stats with
          misses := c.stats.misses + 1
          evictionsTtl := c.stats.evictionsTtl + 1
          entries := (c.entries.erase k).size } }

theorem dropExpired_eq : c.dropExpired k =
    { c with
      entries := c.entries.erase k
      recency := c.recency.filter (· ≠ k)
      stats := { c.stats with
        evictionsTtl := c.stats.evictionsTtl + 1
        entries := (c.entries.erase k).size } } := by
  have hentries : c.entries.filter (fun e => !decide (e.1 = k)) = c.entries.erase k := by
    simp [Keyed.filter, Keyed.erase]
  have hrecency : (c.recency.filter fun k' => !decide (k' = k)) = c.recency.filter (· ≠ k) := by
    simp
  simp only [dropExpired, without, recount, countExpired, size, hentries, hrecency]

theorem Sound.missed_get (h : c.Sound) (hget : (c.get now k).1 = none) :
    Missed c now k (c.get now k).2 := by
  cases hon : c.settings.isEnabled with
  | false =>
    -- Nothing is kept without a capacity, so there is no entry to leave alone.
    rw [get_of_off hon]
    exact .absent (h.get?_of_off hon)
  | true =>
    cases hk : c.entries.get? k with
    | none =>
      rw [get_of_missing hk]
      exact .absent hk
    | some e =>
      cases he : e.isExpired now with
      | false =>
        rw [get_of_live hon hk he] at hget
        cases hget
      | true =>
        rw [get_of_expired hon hk he, dropExpired_eq]
        exact .expired hk he

end RecordCache

/-! ## Fetches that find no row, or fail -/

theorem Traced.calls_call_bind {α β : Type} (c : Call) (outcome : Except LookupError α)
    (f : α → Traced β) : ∃ rest, (call c outcome >>= f).calls = c :: rest := by
  cases outcome with
  | error e => exact ⟨[], rfl⟩
  | ok a => exact ⟨(f a).calls, rfl⟩

namespace RowLookup

variable {σ : Type} {db : Database σ}

/-- Why a statement gives no answer: the database fails, or the row that it finds makes no
record. -/
def Fault (db : Database σ) (statement : String) (args : Arguments) (source : LookupError) : Prop :=
  db.respond statement (args.map (·.2)) = .error source ∨
    ∃ row, db.respond statement (args.map (·.2)) = .ok (some row) ∧
      (inferRecord db.vocabulary none row.view).outcome = .error source

/-- A fault is reported once, with the statement and the key. -/
theorem fetch_cases (db : Database σ) (statement : String) (key : Value) (args : Arguments) :
    (∃ source, Fault db statement args source ∧ (fetch db statement key args).outcome =
      .error (.statement statement key.text source)) ∨
    (db.respond statement (args.map (·.2)) = .ok none ∧
      (fetch db statement key args).outcome = .ok none) ∨
    ∃ record, (fetch db statement key args).outcome = .ok (some record) := by
  change (∃ source, _ ∧ (select db statement args).outcome.mapError _ = _) ∨
    (_ ∧ (select db statement args).outcome.mapError _ = _) ∨
    ∃ record, (select db statement args).outcome.mapError _ = _
  rw [outcome_select]
  rcases hr : db.respond statement (args.map (·.2)) with source | _ | row
  · refine .inl ⟨source, .inl hr, ?_⟩
    rw [hr]
    rfl
  · refine .inr (.inl ⟨hr, ?_⟩)
    rw [hr]
    rfl
  · have hrecord : (db.respond statement (args.map (·.2))).bind (recordOf db.vocabulary) =
        (inferRecord db.vocabulary none row.view).outcome.map some := by
      rw [hr]
      rfl
    rw [hrecord]
    cases h : (inferRecord db.vocabulary none row.view).outcome with
    | error source => exact .inl ⟨source, .inr ⟨row, hr, h⟩, rfl⟩
    | ok record => exact .inr (.inr ⟨record, rfl⟩)

/-- The statement is prepared first, and only then. -/
theorem calls_fetch (db : Database σ) (statement : String) (key : Value) (args : Arguments) :
    ∃ rest, (fetch db statement key args).calls = .prepare statement :: rest ∧
      ∀ c ∈ rest, c.isPrepare = false := by
  obtain ⟨rest, hrest⟩ : ∃ rest, (select db statement args).calls = .prepare statement :: rest :=
    Traced.calls_call_bind ..
  have hone : (select db statement args).calls.countP Call.isPrepare = 1 :=
    prepares_fetch db statement key args
  rw [hrest, List.countP_cons_of_pos rfl, Nat.add_eq_right, List.countP_eq_zero] at hone
  exact ⟨rest, hrest, fun c hc => by simpa using hone c hc⟩

theorem keep_of_none {cache : RecordCache} {now : Moment} {k : CacheKey}
    {fetched : Except LookupError (Option Record)} (h : ∀ record, fetched ≠ .ok (some record)) :
    keep cache now k fetched = (.outcome fetched, cache) := by
  unfold keep
  split
  · next record => exact (h record rfl).elim
  · rfl

/-! ## Services in use -/

variable {coordinates : Coordinates} {now : Moment} {r : RowResources} {l : Lifecycle RowResources}

/-- The states of a service in use. Enabling and disabling may be under way or broken off, and the
steps of any number of lookups may come in between. -/
inductive Reached : Lifecycle RowResources → Prop
  | new : Reached .new
  | beginEnable {l : Lifecycle RowResources} (h : Reached l) : Reached l.beginEnable.2
  | built {l before : Lifecycle RowResources} (settings : RowSettings) (h : Reached l)
      (hbefore : Reached before) :
    Reached (l.endEnable (.ok (resources settings before.resources)))
  | failed {l : Lifecycle RowResources} (e : LookupError) (h : Reached l) :
    Reached (l.endEnable (.error e))
  | beginDisable {l inside : Lifecycle RowResources} {r : RowResources} (h : Reached l)
      (hbegin : l.beginDisable = some (r, inside)) : Reached inside
  | endDisable {l : Lifecycle RowResources} (h : Reached l) : Reached l.endDisable
  | asked {l : Lifecycle RowResources} {r : RowResources} (coordinates : Coordinates)
      (now : Moment) (h : Reached l) (hr : l.resources = some r) :
    Reached (l.update { r with cache := (ask coordinates now r).2 })
  | kept {l : Lifecycle RowResources} {r : RowResources} (now : Moment) (key : CacheKey)
      (fetched : Except LookupError (Option Record)) (h : Reached l) (hr : l.resources = some r) :
    Reached (l.update { r with cache := (keep r.cache now key fetched).2 })

/-- What holds of the resources of a service in use. -/
structure Sound (r : RowResources) : Prop where
  fits : r.Fits
  sound : r.cache.Sound

theorem sound_cacheFor {previous : Option RowResources}
    (h : ∀ r, previous = some r → r.cache.Sound) (wanted : CacheSettings) :
    (cacheFor previous wanted).Sound := by
  unfold cacheFor
  split
  · next r =>
    split
    · exact .new wanted
    · exact h r rfl
  · exact .new wanted

theorem sound_ask (h : r.cache.Sound) : (ask coordinates now r).2.Sound := by
  rcases ask_cases coordinates now r with ⟨-, ha⟩ | ⟨_, _, -, -, ha⟩ | ⟨_, _, _, -, -, -, ha⟩ |
    ⟨_, _, -, -, -, ha⟩ <;> rw [ha]
  · exact h
  · exact h
  · exact h.get
  · exact h.get

theorem sound_keep {cache : RecordCache} {k : CacheKey}
    {fetched : Except LookupError (Option Record)} (h : cache.Sound) :
    (keep cache now k fetched).2.Sound := by
  unfold keep
  split
  · exact h.put
  · exact h

theorem Sound.withCache {cache : RecordCache} (h : Sound r)
    (hs : cache.settings = r.cache.settings) (hc : cache.Sound) : Sound { r with cache } where
  fits := ⟨h.fits.statement_eq, hs ▸ h.fits.capacity_eq, hs ▸ h.fits.ttl_eq⟩
  sound := hc

theorem Reached.sound (h : Reached l) : ∀ r, l.resources = some r → Sound r := by
  induction h with
  | new => exact nofun
  | beginEnable => exact nofun
  | built settings _ _ _ ihbefore =>
    rintro _ ⟨⟩
    exact ⟨fits_resources settings _, sound_cacheFor (fun r hr => (ihbefore r hr).sound) _⟩
  | failed _ _ ih => exact ih
  | beginDisable _ hbegin =>
    obtain ⟨_, -, hinside⟩ := Option.map_eq_some_iff.1 hbegin
    cases hinside
    exact nofun
  | endDisable _ ih => exact ih
  | asked _ _ _ hr ih =>
    rw [Lifecycle.update_eq hr]
    rintro _ ⟨⟩
    exact (ih _ hr).withCache settings_ask (sound_ask (ih _ hr).sound)
  | kept _ _ _ _ hr ih =>
    rw [Lifecycle.update_eq hr]
    rintro _ ⟨⟩
    exact (ih _ hr).withCache settings_keep (sound_keep (ih _ hr).sound)

theorem Reached.enable (h : Reached l) (db : Database σ) (settings : RowSettings) :
    Reached (RowLookup.enable db settings l).2 := by
  rcases enable_cases db settings l with ⟨-, -, he⟩ | ⟨-, he⟩ <;> rw [he]
  · exact .built settings h.beginEnable h
  · -- Whatever the failure was, the state does not tell.
    exact .failed (.notReady .disabled) h.beginEnable

theorem Reached.disable (h : Reached l) : Reached l.disable := by
  unfold Lifecycle.disable
  split
  · next hbegin => exact (h.beginDisable hbegin).endDisable
  · exact h

/-- The steps of one lookup follow one another. -/
theorem Reached.lookup (h : Reached l) (db : Database σ) (coordinates : Coordinates)
    (now : Moment) : Reached (RowLookup.lookup db coordinates now l).2.2 := by
  unfold RowLookup.lookup
  cases hr : l.read with
  | error e => exact h
  | ok r =>
    have hres := Lifecycle.read_eq_ok_iff.1 hr
    have hasked : Reached (l.update { r with cache := (ask coordinates now r).2 }) :=
      h.asked coordinates now hres
    rw [Lifecycle.update_eq hres] at hasked
    -- The lookup ends after the first step, or fetches and goes on to the last.
    simp only [serve]
    split
    · next ha => rwa [ha, ← Lifecycle.update_eq hres] at hasked
    · next key args cache ha =>
      rw [ha] at hasked
      have hkept := hasked.kept now key (fetch db r.statement key.key args).outcome rfl
      rwa [Lifecycle.update_eq rfl, ← Lifecycle.update_eq hres] at hkept

/-- The lookup has asked for a row, in vain, and the cache has counted a miss. -/
theorem lookup_of_not_refuses {calls : List Call} {after : RowLookup}
    {outcome : Except LookupError (Option Record)} (hl : Reached l)
    (hnot : ¬∃ refusal, Refuses l coordinates refusal)
    (h : lookup db coordinates now l = (calls, .outcome outcome, after))
    (hnone : ∀ record, outcome ≠ .ok (some record)) :
    ∃ r key args rest cache, l.resources = some r ∧
      keyValue? coordinates r.settings.keyName = some key ∧
      Arguments.extract coordinates = .ok args ∧
      (calls = .prepare r.settings.query.text :: rest ∧ ∀ c ∈ rest, c.isPrepare = false) ∧
      (RecordCache.Missed r.cache now ⟨r.settings.tableName, key⟩ cache ∧
        after = ⟨some { r with cache }, l.phase⟩) ∧
      (outcome = .ok none ∧ db.respond r.settings.query.text (args.map (·.2)) = .ok none ∨
        ∃ source, outcome = .error (.statement r.settings.query.text key.text source) ∧
          Fault db r.settings.query.text args source) := by
  obtain ⟨r, key, args, hr, hk, hargs⟩ := asks_of_not_refuses hnot
  obtain ⟨hfits, hcache⟩ := hl.sound r hr
  rcases hget : r.cache.get now ⟨r.settings.tableName, key⟩ with ⟨_ | record, cache⟩
  · have hmissed := hcache.missed_get (congrArg Prod.fst hget)
    rw [hget] at hmissed
    simp only [lookup, Lifecycle.read_eq_ok_iff.2 hr, serve, ask, hk, hargs, hget,
      Prod.mk.injEq] at h
    obtain ⟨rfl, hanswer, rfl⟩ := h
    obtain rfl := outcome_of_keep hanswer
    obtain ⟨rest, hcalls⟩ := calls_fetch db r.statement key args
    refine ⟨r, key, args, rest, cache, hr, hk, hargs, ?_⟩
    rw [keep_of_none hnone, Lifecycle.update_eq hr, ← hfits.statement_eq]
    refine ⟨hcalls, ⟨hmissed, rfl⟩, ?_⟩
    rcases fetch_cases db r.statement key args with ⟨source, hfault, hf⟩ |
      ⟨hrespond, hf⟩ | ⟨record, hf⟩
    · exact .inr ⟨source, hf, hfault⟩
    · exact .inl ⟨hf, hrespond⟩
    · exact (hnone record hf).elim
  · simp only [lookup, Lifecycle.read_eq_ok_iff.2 hr, serve, ask, hk, hargs, hget,
      Prod.mk.injEq, Answer.outcome.injEq] at h
    exact (hnone record h.2.1.symm).elim

end RowLookup

namespace RowSession

variable {σ : Type} {s : RowSession} {x : RowStep σ} {steps : List (RowStep σ)}

theorem reached_step (h : RowLookup.Reached s.service) : RowLookup.Reached (s.step x).service := by
  cases x with
  | enable db settings => exact h.enable db settings
  | disable => exact h.disable
  | clock now => exact h
  | lookup db coordinates => exact h.lookup db coordinates s.now

theorem reached_run (h : RowLookup.Reached s.service) :
    RowLookup.Reached (s.run steps).service := by
  induction steps generalizing s with
  | nil => exact h
  | cons x rest ih => exact ih (reached_step h)

end RowSession

/-! ## Lookups that find nothing -/

/-- A lookup that is refused asks no store and leaves the service as it is, with its schemas and its
cache. Any other lookup in a table that finds nothing or fails prepares its statement once. It
leaves the cache as it is but for a miss, and for an expired entry of its key, which goes and is
counted. What failed is told with the statement and the key, once. -/
theorem lookups_leave_no_trace {σ τ : Type} (coordinates : Coordinates) :
    (∀ (service : KeyLookup) (outcome : Except LookupError (Option Record)),
      service.Refuses coordinates outcome →
      ∀ (store : ObjectStore σ) (context : Context) (s : σ),
        KeyLookup.lookup store coordinates context service s = ⟨[], outcome, service, s⟩) ∧
    (∀ (service : QueryLookup) (outcome : Except LookupError (Option Record)),
      service.Refuses coordinates outcome →
      ∀ (store : ObjectStore σ) (context : Context) (s : σ),
        QueryLookup.lookup store coordinates context service s = ⟨[], outcome, service, s⟩) ∧
    (∀ (service : RowLookup) (outcome : Except LookupError (Option Record)),
      service.Refuses coordinates outcome →
      ∀ (db : Database τ) (now : Moment),
        RowLookup.lookup db coordinates now service = ([], .outcome outcome, service)) ∧
    ∀ (service : RowLookup), RowLookup.Reached service →
      (¬∃ refusal, service.Refuses coordinates refusal) →
      ∀ (db : Database τ) (now : Moment) (calls : List Call)
        (outcome : Except LookupError (Option Record)) (after : RowLookup),
        RowLookup.lookup db coordinates now service = (calls, .outcome outcome, after) →
        (∀ record, outcome ≠ .ok (some record)) →
        ∃ r key args rest cache, Lifecycle.resources service = some r ∧
          keyValue? coordinates r.settings.keyName = some key ∧
          Arguments.extract coordinates = .ok args ∧
          (calls = .prepare r.settings.query.text :: rest ∧ ∀ c ∈ rest, c.isPrepare = false) ∧
          (RecordCache.Missed r.cache now ⟨r.settings.tableName, key⟩ cache ∧
            after = ⟨some { r with cache }, Lifecycle.phase service⟩) ∧
          (outcome = .ok none ∧ db.respond r.settings.query.text (args.map (·.2)) = .ok none ∨
            ∃ source, outcome = .error (.statement r.settings.query.text key.text source) ∧
              RowLookup.Fault db r.settings.query.text args source) := by
  refine ⟨?_, ?_, ?_, ?_⟩
  · exact fun service outcome h => KeyLookup.lookup_of_refuses h
  · exact fun service outcome h => QueryLookup.lookup_of_refuses h
  · exact fun service outcome h => RowLookup.lookup_of_refuses h
  · exact fun service hl hnot db now calls outcome after => RowLookup.lookup_of_not_refuses hl hnot

open RowSession (echo columnSettings trueKey)

/-- A blank key, and an argument whose position is past 64 bits. -/
def unfit : Coordinates :=
  ⟨[("key", .string " "), ("arg18446744073709551616", .long 1)], by decide⟩

def keysOnly : KeyLookup := ⟨some ⟨{ cacheName := "Person" }, .empty⟩, .enabled⟩

def queriesOnly : QueryLookup :=
  ⟨some (QueryLookup.resources .sql { cacheName := "Person", keyColumn := "id" }), .enabled⟩

/-- The record of a lookup has a second to live, which is over. -/
def outlived : List (RowStep String) :=
  [.enable echo { columnSettings "a" with
      cache := { capacity := 1, ttl := some (.ofSeconds 1), clearOnEnable := false } },
    .lookup echo trueKey, .clock 1000000000]

def unplugged : Database String :=
  { echo with fetchFirst := fun _ => .error (.store (.said "unplugged")) }

theorem lookups_leave_no_trace_outlived :
    KeyLookup.lookup (MemoryStore.store .canonical .sql) unfit .empty keysOnly { } =
      ⟨[], .ok none, keysOnly, { }⟩ ∧
    QueryLookup.lookup (MemoryStore.store .canonical .sql) unfit .empty queriesOnly { } =
      ⟨[], .error (.argument Text.maxWord (.outOfRange "arg18446744073709551616")), queriesOnly,
        { }⟩ ∧
    let s := (RowSession.new 0).run outlived
    RowLookup.lookup unplugged unfit s.now s.service = ([], .outcome (.ok none), s.service) ∧
    ∃ r key cache, s.service.resources = some r ∧ r.cache.size = 1 ∧
      RecordCache.Missed r.cache s.now ⟨r.settings.tableName, key⟩ cache ∧
      cache.size = 0 ∧ cache.stats = { misses := 2, evictionsTtl := 1 } ∧
      (RowLookup.lookup unplugged trueKey s.now s.service).2 =
        (.outcome (.error (.statement "SELECT a FROM t WHERE id = ?" "true"
          (.store (.said "unplugged")))), ⟨some { r with cache }, .enabled⟩) := by
  obtain ⟨hkey, hquery, hrow, -⟩ := lookups_leave_no_trace (σ := MemoryStore) (τ := String) unfit
  obtain ⟨-, -, -, hfound⟩ := lookups_leave_no_trace (σ := MemoryStore) (τ := String) trueKey
  have hblank : ∀ v, unfit.get? "key" = some v → v.isBlank = true := by
    rintro v ⟨⟩
    decide
  have hpast : Arguments.extract unfit =
      .error (.argument Text.maxWord (.outOfRange "arg18446744073709551616")) := by
    with_unfolding_all rfl
  refine ⟨hkey keysOnly _ (.keyless rfl rfl hblank) .., ?_, ?_⟩
  · exact hquery queriesOnly _ (.disordered rfl nofun rfl hpast) ..
  intro s
  obtain ⟨r, hr⟩ : ∃ r, s.service.resources = some r := ⟨_, rfl⟩
  have hheld : s.service.resources.map (fun r => (r.settings.keyName, r.cache.size)) =
      some ("key", 1) := by
    with_unfolding_all rfl
  rw [hr, Option.map_some, Option.some.injEq, Prod.mk.injEq] at hheld
  obtain ⟨hname, hsize⟩ := hheld
  refine ⟨hrow s.service _ (.keyless hr rfl (hname ▸ hblank)) .., ?_⟩
  have hnot : ¬∃ refusal, RowLookup.Refuses s.service trueKey refusal := by
    rintro ⟨refusal, hrefused⟩
    have hcalls : (RowLookup.lookup unplugged trueKey s.now s.service).1.length = 2 := by
      with_unfolding_all rfl
    rw [RowLookup.lookup_of_refuses hrefused unplugged s.now] at hcalls
    cases hcalls
  have hanswer : RowLookup.lookup unplugged trueKey s.now s.service =
      ((RowLookup.lookup unplugged trueKey s.now s.service).1,
        .outcome (.error (.statement "SELECT a FROM t WHERE id = ?" "true"
          (.store (.said "unplugged")))),
        (RowLookup.lookup unplugged trueKey s.now s.service).2.2) := by
    with_unfolding_all rfl
  obtain ⟨r', key, args, rest, cache, hr', -, -, -, ⟨hmissed, hafter⟩, -⟩ :=
    hfound s.service (RowSession.reached_run .new) hnot unplugged s.now _ _ _ hanswer nofun
  cases hr.symm.trans hr'
  have hcache :
      (Lifecycle.resources (RowLookup.lookup unplugged trueKey s.now s.service).2.2).map
        (fun r => (r.cache.size, r.cache.stats)) =
      some (0, ({ misses := 2, evictionsTtl := 1 } : CacheStats)) := by
    with_unfolding_all rfl
  rw [hafter, Option.map_some, Option.some.injEq, Prod.mk.injEq] at hcache
  refine ⟨r, key, cache, hr, hsize, hmissed, hcache.1, hcache.2, ?_⟩
  rw [hanswer, hafter]
  rfl

end KeyedRecords
