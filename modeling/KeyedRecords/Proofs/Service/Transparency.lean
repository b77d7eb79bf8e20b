import KeyedRecords.Proofs.Service.Provenance

/-!
The cache of a table lookup is transparent. As long as the statement, the arguments of each key and
the database's answers stay what they are (`Steady`), every lookup is answered as if nothing was
ever cached.
-/

namespace KeyedRecords

/-- The same settings, and no record is kept. -/
def RowSettings.uncached (settings : RowSettings) : RowSettings :=
  { settings with cache := { settings.cache with capacity := 0 } }

theorem RowSettings.check_uncached (settings : RowSettings) :
    settings.uncached.check = settings.check := rfl

def RowStep.uncached {σ : Type} : RowStep σ → RowStep σ
  | .enable db settings => .enable db settings.uncached
  | x => x

namespace RowLookup

variable {σ : Type} {db db' : Database σ} {settings : RowSettings}
  {coordinates : Coordinates} {now : Moment} {r : RowResources} {k : CacheKey}

/-- The outcome of a lookup that has no cache to ask. -/
def direct (db : Database σ) (coordinates : Coordinates) (settings : RowSettings) :
    Except LookupError (Option Record) :=
  match keyValue? coordinates settings.keyName with
  | none => .ok none
  | some key =>
    match Arguments.extract coordinates with
    | .error e => .error e
    | .ok args => (fetch db settings.query.text key args).outcome

theorem direct_uncached (db : Database σ) (coordinates : Coordinates) (settings : RowSettings) :
    direct db coordinates settings.uncached = direct db coordinates settings := rfl

theorem direct_of_ok {key : Value} {args : Arguments}
    (hk : keyValue? coordinates settings.keyName = some key)
    (ha : Arguments.extract coordinates = .ok args) :
    direct db coordinates settings = (fetch db settings.query.text key args).outcome := by
  simp only [direct, hk, ha]

/-- What is fetched depends on the arguments' values and not on their positions. -/
theorem fetch_congr {statement : String} {key : Value} {args args' : Arguments}
    (hv : db.vocabulary = db'.vocabulary)
    (hr : ∀ statement values, db.respond statement values = db'.respond statement values)
    (ha : args.map (·.2) = args'.map (·.2)) :
    (fetch db statement key args).outcome = (fetch db' statement key args').outcome := by
  simp only [fetch, Traced.mapError, outcome_select, hv, hr, ha]

theorem keep_of_representable {cache : RecordCache}
    {fetched : Except LookupError (Option Record)}
    (h : cache.settings.isEnabled → CacheEntry.expiry? now cache.settings.effectiveTtl ≠ none) :
    (keep cache now k fetched).1 = .outcome fetched := by
  unfold keep
  split
  · next record =>
    dsimp only
    split
    · next ho =>
      obtain ⟨hon, he⟩ := RecordCache.overflow_put ho
      exact (h hon he).elim
    · rfl
  · rfl

/-- A lookup is answered as if there was no cache, or with a record of an enabled cache. -/
theorem serve_cases (db : Database σ) (coordinates : Coordinates) (hf : r.Fits)
    (he : r.settings.cache.isEnabled →
      CacheEntry.expiry? now r.settings.cache.effectiveTtl ≠ none) :
    (serve db coordinates now r).2.1 = .outcome (direct db coordinates r.settings) ∨
    ∃ key args e, r.settings.cache.isEnabled ∧
      keyValue? coordinates r.settings.keyName = some key ∧
      Arguments.extract coordinates = .ok args ∧
      r.cache.entries.get? ⟨r.settings.tableName, key⟩ = some e ∧
      (serve db coordinates now r).2.1 = .outcome (.ok (some e.record)) := by
  rcases ask_cases coordinates now r with ⟨hk, ha⟩ | ⟨key, e, hk, hargs, ha⟩ |
    ⟨key, args, record, hk, hargs, hg, ha⟩ | ⟨key, args, hk, hargs, -, ha⟩
  · exact .inl (by rw [serve_of_answered (congrArg Prod.fst ha), direct, hk])
  · exact .inl (by rw [serve_of_answered (congrArg Prod.fst ha), direct, hk, hargs])
  · obtain ⟨e, hon, hentry, rfl⟩ := RecordCache.entry_of_hit hg
    exact .inr ⟨key, args, e, hf.isEnabled_eq ▸ hon, hk, hargs, hentry,
      by rw [serve_of_answered (congrArg Prod.fst ha)]⟩
  · refine .inl ?_
    rw [serve_of_missed (congrArg Prod.fst ha), keep_of_representable, hf.statement_eq,
      direct_of_ok hk hargs]
    rw [settings_ask, hf.isEnabled_eq, hf.ttl_eq]
    exact he

theorem serve_of_off (hf : r.Fits) (hoff : r.settings.cache.isEnabled = false) :
    (serve db coordinates now r).2.1 = .outcome (direct db coordinates r.settings) := by
  rcases serve_cases db coordinates hf (by simp [hoff]) with h | ⟨_, _, _, hon, -⟩
  · exact h
  · simp [hoff] at hon

end RowLookup

namespace RowSession

variable {σ : Type} {s t : RowSession} {x : RowStep σ} {steps before after : List (RowStep σ)}
  {db : Database σ} {coordinates : Coordinates} {now : Moment} {r : RowResources} {e : CacheEntry}

/-! ## The session without a cache -/

/-- The settings of an enabled service. -/
def settings? (s : RowSession) : Option RowSettings := s.service.resources.map (·.settings)

/-- `t` is where `s` is, except that its settings keep no record. -/
structure Mirrors (s t : RowSession) : Prop where
  now_eq : t.now = s.now
  phase_eq : t.service.phase = s.service.phase
  settings_eq : t.settings? = s.settings?.map .uncached

theorem mirrors_new (now : Moment) : (new now).Mirrors (new now) := ⟨rfl, rfl, rfl⟩

theorem phase_lookup : (s.step (.lookup db coordinates)).service.phase = s.service.phase := by
  simp only [step, RowLookup.lookup]
  split <;> rfl

theorem settings?_lookup : (s.step (.lookup db coordinates)).settings? = s.settings? := by
  simp only [step, RowLookup.lookup, settings?]
  split
  · rfl
  · next r h => simp [Lifecycle.update, Lifecycle.read_eq_ok_iff.1 h]

theorem Mirrors.isSome_eq (h : s.Mirrors t) :
    t.service.resources.isSome = s.service.resources.isSome := by
  simpa [settings?] using congrArg Option.isSome h.settings_eq

theorem Mirrors.enable {settings : RowSettings} (h : s.Mirrors t) :
    (s.step (.enable db settings)).Mirrors (t.step (.enable db settings.uncached)) := by
  have hcheck := settings.check_uncached
  rcases RowLookup.enable_cases db settings s.service with ⟨hc, hp, hs⟩ | ⟨hn, hs⟩
  · have ht := RowLookup.enable_of_ok t.service (hcheck.trans hc) hp
    refine ⟨h.now_eq, ?_, ?_⟩
    · simp only [RowSession.step, hs, ht]
    · simp only [RowSession.step, settings?, hs, ht]
      rfl
  · rw [← hcheck] at hn
    have ht := RowLookup.enable_of_error t.service hn
    refine ⟨h.now_eq, ?_, ?_⟩
    · simp only [RowSession.step, hs, ht]
    · simp only [RowSession.step, settings?, hs, ht]
      rfl

theorem Mirrors.disable (h : s.Mirrors t) :
    (s.step (.disable : RowStep σ)).Mirrors (t.step (.disable : RowStep σ)) := by
  refine ⟨h.now_eq, ?_, ?_⟩
  · simp only [RowSession.step, Lifecycle.phase_disable, h.isSome_eq, h.phase_eq]
  · simp only [RowSession.step, settings?, Lifecycle.resources_disable, Option.map_none]

theorem Mirrors.step (h : s.Mirrors t) : (s.step x).Mirrors (t.step x.uncached) := by
  cases x with
  | enable db settings => exact h.enable
  | disable => exact h.disable
  | clock now => exact ⟨rfl, h.phase_eq, h.settings_eq⟩
  | lookup db coordinates =>
    refine ⟨h.now_eq, phase_lookup.trans (h.phase_eq.trans phase_lookup.symm), ?_⟩
    exact settings?_lookup.trans (h.settings_eq.trans (congrArg _ settings?_lookup.symm))

theorem Mirrors.run (h : s.Mirrors t) : (s.run steps).Mirrors (t.run (steps.map .uncached)) := by
  induction steps generalizing s t with
  | nil => exact h
  | cons x rest ih => exact ih h.step

/-! ## Every lookup is answered as it would be without a cache -/

/-- The steps agree on the statement and the key name, on the values of the arguments for each key,
and on the answers of the database. -/
structure Steady (steps : List (RowStep σ)) : Prop where
  same_settings : ∀ {db settings db' settings'}, .enable db settings ∈ steps →
    .enable db' settings' ∈ steps →
    settings.query = settings'.query ∧ settings.keyName = settings'.keyName
  same_arguments : ∀ {db settings db₁ coordinates₁ db₂ coordinates₂ key args₁ args₂},
    .enable db settings ∈ steps → .lookup db₁ coordinates₁ ∈ steps →
    .lookup db₂ coordinates₂ ∈ steps →
    keyValue? coordinates₁ settings.keyName = some key →
    keyValue? coordinates₂ settings.keyName = some key →
    Arguments.extract coordinates₁ = .ok args₁ → Arguments.extract coordinates₂ = .ok args₂ →
    args₁.map (·.2) = args₂.map (·.2)
  same_answers : ∀ {db₁ coordinates₁ db₂ coordinates₂}, .lookup db₁ coordinates₁ ∈ steps →
    .lookup db₂ coordinates₂ ∈ steps → db₁.vocabulary = db₂.vocabulary ∧
    ∀ statement values, db₁.respond statement values = db₂.respond statement values

/-- An entry that is created now has an expiry, or needs none. -/
def Representable (s : RowSession) : Prop :=
  ∀ r, s.service.read = .ok r → r.settings.cache.isEnabled →
    CacheEntry.expiry? s.now r.settings.cache.effectiveTtl ≠ none

/-- The settings of an enabled service are those of an enabling before. -/
theorem enabled_of_read (h : ((new now).run steps).service.read = .ok r) :
    ∃ db, .enable db r.settings ∈ steps := by
  rcases settings_of_run h with ⟨_, hold, -⟩ | h
  · exact (read_new hold).elim
  · exact h

/-- A cached record is what the statement would find now. -/
theorem Steady.direct_eq {key : Value} {args : Arguments} (h : Steady steps)
    (hsub : ∀ x ∈ before, x ∈ steps) (hl : .lookup db coordinates ∈ steps)
    (hr : ((new now).run before).service.read = .ok r)
    (hk : keyValue? coordinates r.settings.keyName = some key)
    (ha : Arguments.extract coordinates = .ok args)
    (he : r.cache.entries.get? ⟨r.settings.tableName, key⟩ = some e) :
    RowLookup.direct db coordinates r.settings = .ok (some e.record) := by
  obtain ⟨earlier, db', coordinates', later, r', hsplit, hr', ⟨args', hmissed, hfetch⟩, -⟩ :=
    backed_new now before r hr _ e he
  obtain ⟨key', hkey, hk', ha'⟩ := RowLookup.of_missed hmissed
  obtain rfl : key = key' := congrArg CacheKey.key hkey
  have hl' : .lookup db' coordinates' ∈ steps := hsub _ (by simp [hsplit])
  obtain ⟨_, henable⟩ := enabled_of_read hr
  obtain ⟨_, henable'⟩ := enabled_of_read hr'
  replace henable := hsub _ henable
  replace henable' := hsub _ (hsplit ▸ List.mem_append_left _ henable')
  obtain ⟨hquery, hname⟩ := h.same_settings henable henable'
  have hargs := h.same_arguments henable' hl hl' (hname ▸ hk) hk' ha ha'
  obtain ⟨hvocabulary, hrespond⟩ := h.same_answers hl hl'
  calc RowLookup.direct db coordinates r.settings
      = (RowLookup.fetch db r.settings.query.text key args).outcome :=
        RowLookup.direct_of_ok hk ha
    _ = (RowLookup.fetch db' r'.settings.query.text key args').outcome := by
        rw [hquery]
        exact RowLookup.fetch_congr hvocabulary hrespond hargs
    _ = .ok (some e.record) := hfetch

theorem answer_of_read (h : s.service.read = .ok r) :
    s.answer db coordinates = (RowLookup.serve db coordinates s.now r).2.1 := by
  simp only [answer, RowLookup.lookup, h]

/-- In a session of which the settings keep no record, lookups go to the database. -/
theorem Mirrors.answer_eq (h : s.Mirrors t) (ht : t.Fits) (hr : s.service.read = .ok r) :
    t.answer db coordinates = .outcome (RowLookup.direct db coordinates r.settings) := by
  have hsettings : t.settings? = some r.settings.uncached := by
    rw [h.settings_eq, settings?, Lifecycle.read_eq_ok_iff.1 hr]
    rfl
  obtain ⟨r', hr', heq⟩ := Option.map_eq_some_iff.1 hsettings
  replace hr' := Lifecycle.read_eq_ok_iff.2 hr'
  have hoff : r'.settings.cache.isEnabled = false := by rw [heq]; rfl
  rw [answer_of_read hr', RowLookup.serve_of_off (ht r' hr') hoff, heq,
    RowLookup.direct_uncached]

/-- Both sessions tell in the same way that there is no enabled service. -/
theorem Mirrors.answer_eq_of_error (h : s.Mirrors t) {fault : LookupError}
    (hs : s.service.read = .error fault) :
    s.answer db coordinates = t.answer db coordinates := by
  have hnone : s.service.resources = none := by
    cases hr : s.service.resources with
    | none => rfl
    | some r => simp [Lifecycle.read, hr] at hs
  have hnone' : t.service.resources = none := by
    simpa [hnone] using h.isSome_eq
  simp only [answer, RowLookup.lookup, Lifecycle.read, hnone, hnone', h.phase_eq]

/-- Whatever the sizes, lifetimes and clearings of its caches, a steady run answers each lookup as
the run without caches does. -/
theorem answer_eq_uncached (hsteady : Steady steps)
    (hsplit : steps = before ++ .lookup db coordinates :: after)
    (hexpiry : ((new now).run before).Representable) :
    ((new now).run before).answer db coordinates =
      ((new now).run (before.map .uncached)).answer db coordinates := by
  have hmirrors : ((new now).run before).Mirrors ((new now).run (before.map .uncached)) :=
    (mirrors_new now).run
  cases hr : ((new now).run before).service.read with
  | error fault => exact hmirrors.answer_eq_of_error hr
  | ok r =>
    rw [hmirrors.answer_eq (fits_new now).run hr, answer_of_read hr]
    rcases RowLookup.serve_cases db coordinates ((fits_new now).run r hr) (hexpiry r hr) with
      h | ⟨key, args, e, -, hk, ha, he, h⟩
    · exact h
    · have hsub : ∀ x ∈ before, x ∈ steps := fun x hx => hsplit ▸ List.mem_append_left _ hx
      have hl : .lookup db coordinates ∈ steps := by simp [hsplit]
      rw [h, hsteady.direct_eq hsub hl hr hk ha he]

/-- A lookup, and the same lookup again before the record expires. -/
def askedTwice : List (RowStep String) :=
  [.enable echo { columnSettings "a" with cache := { capacity := 1, ttl := some ⟨5⟩ } },
    .lookup echo trueKey, .clock 3, .lookup echo trueKey]

theorem steady_askedTwice : Steady askedTwice where
  same_settings h h' := by
    simp only [askedTwice, List.mem_cons, RowStep.enable.injEq, reduceCtorEq, List.not_mem_nil,
      or_false] at h h'
    rw [h.2, h'.2]
    exact ⟨rfl, rfl⟩
  same_arguments _ hl hl' _ _ ha ha' := by
    simp only [askedTwice, List.mem_cons, RowStep.lookup.injEq, reduceCtorEq, List.not_mem_nil,
      or_false, false_or, or_self] at hl hl'
    rw [hl.2] at ha
    rw [hl'.2, ha] at ha'
    cases ha'
    rfl
  same_answers hl hl' := by
    simp only [askedTwice, List.mem_cons, RowStep.lookup.injEq, reduceCtorEq, List.not_mem_nil,
      or_false, false_or, or_self] at hl hl'
    rw [hl.1, hl'.1]
    exact ⟨rfl, fun _ _ => rfl⟩

theorem representable_askedTwice : ((new 0).run (askedTwice.take 3)).Representable := by
  intro r hr _
  obtain ⟨_, h⟩ := enabled_of_read hr
  simp only [askedTwice, List.take_succ_cons, List.take_zero, List.mem_cons, RowStep.enable.injEq,
    reduceCtorEq, List.not_mem_nil, or_false] at h
  rw [h.2]
  decide

/-- The second lookup is answered from the cache, with the record that it would find. -/
theorem answer_eq_uncached_askedTwice :
    let s := (new 0).run (askedTwice.take 3)
    let t := (new 0).run ((askedTwice.take 3).map .uncached)
    Steady askedTwice ∧ s.Representable ∧ s.answer echo trueKey = t.answer echo trueKey ∧
      s.answer echo trueKey = .outcome (.ok (some (echoed "SELECT a FROM t WHERE id = ?"))) :=
  ⟨steady_askedTwice, representable_askedTwice,
    answer_eq_uncached steady_askedTwice rfl representable_askedTwice, by with_unfolding_all rfl⟩

end RowSession
end KeyedRecords
