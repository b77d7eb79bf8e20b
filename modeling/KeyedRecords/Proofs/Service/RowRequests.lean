import KeyedRecords.Proofs.Cache.Requests
import KeyedRecords.Service.ByRow

/-!
What a request to a table lookup does, case by case, and where the records come from that it answers
or leaves in the cache: they were in the cache before, or its statement was executed for them
(`entry_of_serve`, `record_of_serve`).
-/

namespace KeyedRecords

namespace RowResources

/-- The statement is that of the settings, and so are the capacity and the lifetime in the cache. -/
structure Fits (r : RowResources) : Prop where
  statement_eq : r.statement = r.settings.query.text
  capacity_eq : r.cache.settings.capacity = r.settings.cache.capacity
  ttl_eq : r.cache.settings.effectiveTtl = r.settings.cache.effectiveTtl

theorem Fits.isEnabled_eq {r : RowResources} (h : r.Fits) :
    r.cache.settings.isEnabled = r.settings.cache.isEnabled := by
  rw [CacheSettings.isEnabled, h.capacity_eq, CacheSettings.isEnabled]

end RowResources

/-- What the database answers to a statement with values in its slots. -/
def Database.respond {σ : Type} (db : Database σ) (statement : String) (values : List Value) :
    Except LookupError (Option TaggedObject) := do
  let prepared ← db.prepare statement
  let bound := Bound.values db.bind 1 prepared values
  bound.outcome
  db.fetchFirst bound.statement

namespace RowLookup

variable {σ : Type} {db : Database σ} {settings : RowSettings} {coordinates : Coordinates}
  {now : Moment} {r : RowResources} {k : CacheKey} {e : CacheEntry} {record : Record}

/-! ## Enabling -/

theorem enable_of_ok (service : RowLookup) (hc : settings.check = .ok ()) (hp : db.ping = .ok ()) :
    (enable db settings service).2 =
      ⟨some (resources settings (Lifecycle.resources service)), .enabled⟩ := by
  simp only [enable, hc, hp, reached_ok, Except.map, Lifecycle.enable, Lifecycle.beginEnable,
    Lifecycle.endEnable]

theorem enable_of_error (service : RowLookup) (h : settings.check ≠ .ok () ∨ db.ping ≠ .ok ()) :
    (enable db settings service).2 = ⟨none, .disabled⟩ := by
  cases hc : settings.check with
  | error e => simp only [enable, hc, Lifecycle.enable, Lifecycle.beginEnable, Lifecycle.endEnable]
  | ok _ =>
    cases hp : db.ping with
    | error e =>
      simp only [enable, hc, hp, reached_error, Except.map, Lifecycle.enable,
        Lifecycle.beginEnable, Lifecycle.endEnable]
    | ok _ => rcases h with h | h <;> contradiction

theorem enable_cases (db : Database σ) (settings : RowSettings) (service : RowLookup) :
    (settings.check = .ok () ∧ db.ping = .ok () ∧ (enable db settings service).2 =
      ⟨some (resources settings (Lifecycle.resources service)), .enabled⟩) ∨
    ((settings.check ≠ .ok () ∨ db.ping ≠ .ok ()) ∧
      (enable db settings service).2 = ⟨none, .disabled⟩) := by
  by_cases h : settings.check = .ok () ∧ db.ping = .ok ()
  · exact .inl ⟨h.1, h.2, enable_of_ok service h.1 h.2⟩
  · have h' := Classical.not_and_iff_not_or_not.1 h
    exact .inr ⟨h', enable_of_error service h'⟩

/-- A cache that stays has the size that is wanted. -/
theorem cacheFor_settings (previous : Option RowResources) (wanted : CacheSettings) :
    (cacheFor previous wanted).settings.capacity = wanted.capacity ∧
      (cacheFor previous wanted).settings.effectiveTtl = wanted.effectiveTtl := by
  unfold cacheFor
  cases previous with
  | none => exact ⟨rfl, rfl⟩
  | some r =>
    cases h : needsNewCache r.cache wanted with
    | true => simp [h, RecordCache.new]
    | false =>
      have hs := h
      simp only [needsNewCache, Bool.or_eq_false_iff, bne_eq_false_iff_eq] at hs
      simpa [h] using ⟨hs.1.2, hs.2⟩

theorem fits_resources (settings : RowSettings) (previous : Option RowResources) :
    (resources settings previous).Fits where
  statement_eq := rfl
  capacity_eq := (cacheFor_settings previous settings.cache).1
  ttl_eq := (cacheFor_settings previous settings.cache).2

/-! ## Lookups, case by case -/

theorem ask_cases (coordinates : Coordinates) (now : Moment) (r : RowResources) :
    (keyValue? coordinates r.settings.keyName = none ∧
      ask coordinates now r = (.answered (.ok none), r.cache)) ∨
    (∃ key e, keyValue? coordinates r.settings.keyName = some key ∧
      Arguments.extract coordinates = .error e ∧
      ask coordinates now r = (.answered (.error e), r.cache)) ∨
    (∃ key args record, keyValue? coordinates r.settings.keyName = some key ∧
      Arguments.extract coordinates = .ok args ∧
      (r.cache.get now ⟨r.settings.tableName, key⟩).1 = some record ∧
      ask coordinates now r = (.answered (.ok (some record)),
        (r.cache.get now ⟨r.settings.tableName, key⟩).2)) ∨
    ∃ key args, keyValue? coordinates r.settings.keyName = some key ∧
      Arguments.extract coordinates = .ok args ∧
      (r.cache.get now ⟨r.settings.tableName, key⟩).1 = none ∧
      ask coordinates now r = (.missed ⟨r.settings.tableName, key⟩ args,
        (r.cache.get now ⟨r.settings.tableName, key⟩).2) := by
  cases hk : keyValue? coordinates r.settings.keyName with
  | none => exact .inl ⟨rfl, by simp only [ask, hk]⟩
  | some key =>
    cases ha : Arguments.extract coordinates with
    | error e => exact .inr (.inl ⟨key, e, rfl, rfl, by simp only [ask, hk, ha]⟩)
    | ok args =>
      rcases hg : r.cache.get now ⟨r.settings.tableName, key⟩ with ⟨_ | record, cache⟩
      · exact .inr (.inr (.inr ⟨key, args, rfl, rfl, by rw [hg], by simp only [ask, hk, ha, hg]⟩))
      · exact .inr (.inr (.inl ⟨key, args, record, rfl, rfl, by rw [hg],
          by simp only [ask, hk, ha, hg]⟩))

theorem of_missed {args : Arguments} (h : (ask coordinates now r).1 = .missed k args) :
    ∃ key, k = ⟨r.settings.tableName, key⟩ ∧ keyValue? coordinates r.settings.keyName = some key ∧
      Arguments.extract coordinates = .ok args := by
  rcases ask_cases coordinates now r with ⟨-, ha⟩ | ⟨_, _, -, -, ha⟩ | ⟨_, _, _, -, -, -, ha⟩ |
    ⟨key, args', hk, hargs, -, ha⟩ <;> rw [ha] at h <;> cases h
  exact ⟨key, rfl, hk, hargs⟩

@[simp] theorem settings_ask : (ask coordinates now r).2.settings = r.cache.settings := by
  rcases ask_cases coordinates now r with ⟨-, h⟩ | ⟨_, _, -, -, h⟩ | ⟨_, _, _, -, -, -, h⟩ |
    ⟨_, _, -, -, -, h⟩ <;> simp [h]

private theorem record_of_get {cache : RecordCache} {asked : CacheKey}
    (h : (cache.get now asked).2.entries.get? k = some e) :
    ∃ old, cache.entries.get? k = some old ∧ old.record = e.record := by
  obtain ⟨old, hold, rfl | rfl⟩ := RecordCache.entry_of_get h
  · exact ⟨e, hold, rfl⟩
  · exact ⟨old, hold, rfl⟩

/-- Asking leaves records where they are. -/
theorem entry_of_ask (h : (ask coordinates now r).2.entries.get? k = some e) :
    ∃ old, r.cache.entries.get? k = some old ∧ old.record = e.record := by
  rcases ask_cases coordinates now r with ⟨-, ha⟩ | ⟨_, _, -, -, ha⟩ | ⟨_, _, _, -, -, -, ha⟩ |
    ⟨_, _, -, -, -, ha⟩ <;> rw [ha] at h
  · exact ⟨e, h, rfl⟩
  · exact ⟨e, h, rfl⟩
  · exact record_of_get h
  · exact record_of_get h

/-- What is kept is found again under its key; everything else was there before. -/
theorem entry_of_keep {cache : RecordCache} {fetched : Except LookupError (Option Record)}
    {stored : CacheKey} (h : (keep cache now stored fetched).2.entries.get? k = some e) :
    cache.entries.get? k = some e ∨ (k = stored ∧ fetched = .ok (some e.record)) := by
  unfold keep at h
  split at h
  · next record =>
    rcases RecordCache.entry_of_put h with h | ⟨rfl, old, -, -, rfl⟩ | ⟨rfl, -, h⟩
    · exact .inl h
    · exact .inr ⟨rfl, rfl⟩
    · exact .inr ⟨rfl, by rw [(CacheEntry.of_create? h).2.1]⟩
  · exact .inl h

theorem outcome_of_keep {cache : RecordCache} {fetched outcome : Except LookupError (Option Record)}
    (h : (keep cache now k fetched).1 = .outcome outcome) : fetched = outcome := by
  unfold keep at h
  split at h
  · dsimp only at h
    split at h <;> cases h
    rfl
  · cases h
    rfl

@[simp] theorem settings_keep {cache : RecordCache} {fetched : Except LookupError (Option Record)} :
    (keep cache now k fetched).2.settings = cache.settings := by
  unfold keep
  split
  · exact RecordCache.settings_put
  · rfl

theorem serve_of_answered {outcome : Except LookupError (Option Record)}
    (h : (ask coordinates now r).1 = .answered outcome) :
    (serve db coordinates now r).2 = (.outcome outcome, (ask coordinates now r).2) := by
  rcases ha : ask coordinates now r with ⟨_, cache⟩
  obtain rfl : _ = Asked.answered outcome := by simpa [ha] using h
  simp only [serve, ha]

theorem serve_of_missed {args : Arguments} (h : (ask coordinates now r).1 = .missed k args) :
    (serve db coordinates now r).2 =
      keep (ask coordinates now r).2 now k (fetch db r.statement k.key args).outcome := by
  rcases ha : ask coordinates now r with ⟨_, cache⟩
  obtain rfl : _ = Asked.missed k args := by simpa [ha] using h
  simp only [serve, ha]

@[simp] theorem settings_serve :
    (serve db coordinates now r).2.2.settings = r.cache.settings := by
  cases h : (ask coordinates now r).1 with
  | answered outcome => simp [serve_of_answered h]
  | missed k args => simp [serve_of_missed h]

/-! ## Statements -/

/-- The record of a row, if there is a row. -/
def recordOf (vocabulary : Vocabulary) :
    Option TaggedObject → Except LookupError (Option Record)
  | none => .ok none
  | some o => (inferRecord vocabulary none o.view).outcome.map some

theorem outcome_select (db : Database σ) (statement : String) (args : Arguments) :
    (select db statement args).outcome =
      (db.respond statement (args.map (·.2))).bind (recordOf db.vocabulary) := by
  simp only [select, Traced.outcome_bind, Database.respond, Bound.arguments, Bound.traced,
    Traced.call]
  cases db.prepare statement with
  | error e => rfl
  | ok prepared =>
    simp only [bind, Except.bind]
    cases (Bound.values db.bind 1 prepared (args.map (·.2))).outcome with
    | error e => rfl
    | ok _ =>
      simp only [Except.map]
      cases db.fetchFirst _ with
      | error e => rfl
      | ok row =>
        cases row with
        | none => rfl
        | some o =>
          refine (Traced.outcome_bind (inferRecord db.vocabulary none o.view) _).trans ?_
          simp only [recordOf]
          cases (inferRecord db.vocabulary none o.view).outcome <;> rfl

/-! ## Where records come from -/

/-- The lookup misses `k`, and the statement of the settings selects a row with the record. -/
def Fetches (db : Database σ) (coordinates : Coordinates) (now : Moment) (r : RowResources)
    (k : CacheKey) (record : Record) : Prop :=
  ∃ args, (ask coordinates now r).1 = .missed k args ∧
    (fetch db r.settings.query.text k.key args).outcome = .ok (some record)

theorem Fetches.scope_eq (h : Fetches db coordinates now r k record) :
    k.scope = r.settings.tableName := by
  obtain ⟨args, ha, -⟩ := h
  obtain ⟨key, rfl, -⟩ := of_missed ha
  rfl

theorem entry_of_serve (hf : r.Fits)
    (h : (serve db coordinates now r).2.2.entries.get? k = some e) :
    (∃ old, r.cache.entries.get? k = some old ∧ old.record = e.record) ∨
      Fetches db coordinates now r k e.record := by
  cases ha : (ask coordinates now r).1 with
  | answered outcome =>
    rw [serve_of_answered ha] at h
    exact .inl (entry_of_ask h)
  | missed missed args =>
    rw [serve_of_missed ha, hf.statement_eq] at h
    rcases entry_of_keep h with h | ⟨rfl, hfetch⟩
    · exact .inl (entry_of_ask h)
    · exact .inr ⟨args, ha, hfetch⟩

/-- A record that is answered was in the cache, or the statement was executed for it. -/
theorem record_of_serve (hf : r.Fits)
    (h : (serve db coordinates now r).2.1 = .outcome (.ok (some record))) :
    ∃ key, keyValue? coordinates r.settings.keyName = some key ∧
      ((∃ e, r.cache.entries.get? ⟨r.settings.tableName, key⟩ = some e ∧ e.record = record) ∨
        Fetches db coordinates now r ⟨r.settings.tableName, key⟩ record) := by
  rcases ask_cases coordinates now r with ⟨-, ha⟩ | ⟨key, _, hk, -, ha⟩ |
    ⟨key, args, found, hk, -, hg, ha⟩ | ⟨key, args, hk, -, -, ha⟩
  · rw [serve_of_answered (congrArg Prod.fst ha)] at h
    cases h
  · rw [serve_of_answered (congrArg Prod.fst ha)] at h
    cases h
  · rw [serve_of_answered (congrArg Prod.fst ha)] at h
    cases h
    obtain ⟨e, -, he, hrecord⟩ := RecordCache.entry_of_hit hg
    exact ⟨key, hk, .inl ⟨e, he, hrecord⟩⟩
  · rw [serve_of_missed (congrArg Prod.fst ha), hf.statement_eq] at h
    exact ⟨key, hk, .inr ⟨args, congrArg Prod.fst ha, outcome_of_keep h⟩⟩

end RowLookup

end KeyedRecords
