import KeyedRecords.Proofs.Service.RowSession

/-!
Where the records of a table lookup come from. A cache may outlive the settings that it was filled
under, for its keys tell the table only. What can be said of a cached record is that a statement on
the table was executed for it, and that every step since then kept the cache (`Obtains`).
-/

namespace KeyedRecords

namespace RowLookup

/-- What is in the cache after enabling was there before, and there was no need of a new cache. -/
theorem entry_of_cacheFor {previous : Option RowResources} {wanted : CacheSettings} {k : CacheKey}
    {e : CacheEntry} (h : (cacheFor previous wanted).entries.get? k = some e) :
    ∃ r, previous = some r ∧ needsNewCache r.cache wanted = false ∧
      r.cache.entries.get? k = some e := by
  unfold cacheFor at h
  cases previous with
  | none => cases h
  | some r =>
    cases hn : needsNewCache r.cache wanted with
    | true => simp [hn, RecordCache.new] at h
    | false => exact ⟨r, rfl, hn, by simpa [hn] using h⟩

end RowLookup

namespace RowSession

variable {σ : Type} {s : RowSession} {x : RowStep σ} {steps past later : List (RowStep σ)}
  {db : Database σ} {coordinates : Coordinates} {now : Moment} {r : RowResources} {k : CacheKey}
  {record : Record}

/-! ## Keeping the cache -/

/-- An enabled service is still enabled after the step, and with the same cache. -/
def Keeps (s : RowSession) : RowStep σ → Prop
  | .enable db settings => settings.check = .ok () ∧ db.ping = .ok () ∧
      ∃ r, s.service.read = .ok r ∧ RowLookup.needsNewCache r.cache settings.cache = false
  | .disable => False
  | .clock _ => True
  | .lookup _ _ => True

def KeepsAll (s : RowSession) : List (RowStep σ) → Prop
  | [] => True
  | x :: rest => s.Keeps x ∧ (s.step x).KeepsAll rest

theorem KeepsAll.snoc (h : s.KeepsAll later) (hx : (s.run later).Keeps x) :
    s.KeepsAll (later ++ [x]) := by
  induction later generalizing s with
  | nil => exact ⟨hx, trivial⟩
  | cons y rest ih => exact ⟨h.1, ih h.2 hx⟩

/-! ## Settings come from enabling -/

theorem settings_of_step (h : (s.step x).service.read = .ok r) :
    (∃ old, s.service.read = .ok old ∧ old.settings = r.settings) ∨
      ∃ db, x = .enable db r.settings := by
  cases x with
  | enable db settings =>
    obtain ⟨-, -, rfl⟩ := read_enable.1 h
    exact .inr ⟨db, rfl⟩
  | disable => exact (read_disable h).elim
  | clock now => exact .inl ⟨r, h, rfl⟩
  | lookup db coordinates =>
    obtain ⟨old, hold, rfl⟩ := read_lookup.1 h
    exact .inl ⟨old, hold, rfl⟩

theorem settings_of_run (h : (s.run steps).service.read = .ok r) :
    (∃ old, s.service.read = .ok old ∧ old.settings = r.settings) ∨
      ∃ db, .enable db r.settings ∈ steps := by
  induction steps generalizing s with
  | nil => exact .inl ⟨r, h, rfl⟩
  | cons x rest ih =>
    rcases ih h with ⟨old, hold, hsettings⟩ | ⟨db, hdb⟩
    · rw [← hsettings]
      rcases settings_of_step hold with hold | ⟨db, rfl⟩
      · exact .inl hold
      · exact .inr ⟨db, List.mem_cons_self⟩
    · exact .inr ⟨db, List.mem_cons_of_mem x hdb⟩

/-! ## Records come from statements -/

/-- One of the steps from `s` on is a lookup that executed the statement of the settings of its time
and found `record` for `k`; all later steps kept the cache. -/
def Obtains (s : RowSession) (steps : List (RowStep σ)) (k : CacheKey) (record : Record) : Prop :=
  ∃ earlier db coordinates later r, steps = earlier ++ .lookup db coordinates :: later ∧
    (s.run earlier).service.read = .ok r ∧
    RowLookup.Fetches db coordinates (s.run earlier).now r k record ∧
    ((s.run earlier).step (.lookup db coordinates)).KeepsAll later

theorem Obtains.of_fetches (h : (s.run past).service.read = .ok r)
    (hf : RowLookup.Fetches db coordinates (s.run past).now r k record) :
    s.Obtains (past ++ [.lookup db coordinates]) k record :=
  ⟨past, db, coordinates, [], r, rfl, h, hf, trivial⟩

theorem Obtains.snoc (h : s.Obtains past k record) (hx : (s.run past).Keeps x) :
    s.Obtains (past ++ [x]) k record := by
  obtain ⟨earlier, db, coordinates, later, r, rfl, hr, hf, hkeep⟩ := h
  refine ⟨earlier, db, coordinates, later ++ [x], r, by simp, hr, hf, hkeep.snoc ?_⟩
  rwa [run_append] at hx

/-- Every record in the cache was obtained in the past. -/
def Backed (s : RowSession) (past : List (RowStep σ)) : Prop :=
  ∀ r, (s.run past).service.read = .ok r →
    ∀ k e, r.cache.entries.get? k = some e → s.Obtains past k e.record

theorem Backed.snoc (hs : s.Fits) (h : s.Backed past) : s.Backed (past ++ [x]) := by
  intro r hr k e he
  rw [run_append] at hr
  cases x with
  | enable db settings =>
    obtain ⟨hc, hp, rfl⟩ := read_enable.1 hr
    obtain ⟨old, hold, hn, he⟩ := RowLookup.entry_of_cacheFor he
    have hread := Lifecycle.read_eq_ok_iff.2 hold
    exact (h old hread k e he).snoc ⟨hc, hp, old, hread, hn⟩
  | disable => exact (read_disable hr).elim
  | clock now => exact (h r hr k e he).snoc trivial
  | lookup db coordinates =>
    obtain ⟨old, hold, rfl⟩ := read_lookup.1 hr
    rcases RowLookup.entry_of_serve (hs.run old hold) he with ⟨e', he', hrecord⟩ | hf
    · rw [← hrecord]
      exact (h old hold k e' he').snoc trivial
    · exact .of_fetches hold hf

theorem backed_run (hs : s.Fits) (h : s.Backed past) : s.Backed (past ++ steps) := by
  induction steps generalizing past with
  | nil => simpa using h
  | cons x rest ih => simpa using ih (h.snoc (x := x) hs)

theorem backed_new (now : Moment) (steps : List (RowStep σ)) : (new now).Backed steps := by
  have h : (new now).Backed ([] : List (RowStep σ)) := fun _ hr => (read_new hr).elim
  simpa using backed_run (fits_new now) h

theorem obtains_of_answer {before : List (RowStep σ)}
    (h : ((new now).run before).answer db coordinates = .outcome (.ok (some record))) :
    ∃ r key, ((new now).run before).service.read = .ok r ∧
      keyValue? coordinates r.settings.keyName = some key ∧
      (new now).Obtains (before ++ [.lookup db coordinates])
        ⟨r.settings.tableName, key⟩ record := by
  simp only [answer, RowLookup.lookup] at h
  cases hr : ((new now).run before).service.read with
  | error e => simp [hr] at h
  | ok r =>
    simp only [hr] at h
    obtain ⟨key, hk, ⟨e, he, rfl⟩ | hf⟩ := RowLookup.record_of_serve ((fits_new now).run r hr) h
    · exact ⟨r, key, rfl, hk, (backed_new now before r hr _ e he).snoc trivial⟩
    · exact ⟨r, key, rfl, hk, .of_fetches hr hf⟩

/-- A record that is answered was found by a statement on the table of the settings, executed by
this lookup or by an earlier one for the same key. The cache was kept ever since: the settings of
that time are still those of now, or a later enabling brought the new ones and took the cache
over. -/
theorem record_provenance {before : List (RowStep σ)}
    (h : ((new now).run before).answer db coordinates = .outcome (.ok (some record))) :
    ∃ r key, ((new now).run before).service.read = .ok r ∧
      keyValue? coordinates r.settings.keyName = some key ∧
      ∃ earlier db' coordinates' later r',
        before ++ [.lookup db coordinates] = earlier ++ .lookup db' coordinates' :: later ∧
        ((new now).run earlier).service.read = .ok r' ∧
        RowLookup.Fetches db' coordinates' ((new now).run earlier).now r'
          ⟨r.settings.tableName, key⟩ record ∧
        (((new now).run earlier).step (.lookup db' coordinates')).KeepsAll later ∧
        r'.settings.tableName = r.settings.tableName ∧
        (r'.settings = r.settings ∨ ∃ db'', .enable db'' r.settings ∈ later) := by
  obtain ⟨r, key, hr, hk, earlier, db', coordinates', later, r', hsplit, hr', hf, hkeep⟩ :=
    obtains_of_answer h
  refine ⟨r, key, hr, hk, earlier, db', coordinates', later, r', hsplit, hr', hf, hkeep,
    hf.scope_eq.symm, ?_⟩
  -- The lookup itself leaves the settings alone, so the run is looked at to its end.
  have hafter : ∃ after, ((new now).run (before ++ [.lookup db coordinates])).service.read =
      .ok after ∧ after.settings = r.settings := by
    rw [run_append]
    exact ⟨_, read_lookup.2 ⟨r, hr, rfl⟩, rfl⟩
  obtain ⟨after, hread, hsettings⟩ := hafter
  rw [hsplit, run_append, run_cons] at hread
  rw [← hsettings]
  rcases settings_of_run hread with ⟨old, hold, heq⟩ | hdb
  · obtain ⟨old', hold', rfl⟩ := read_lookup.1 hold
    cases hr'.symm.trans hold'
    exact .inl heq
  · exact .inr hdb

/-! Of two statements on one table the second may be answered with a record of the first. -/

/-- A database that answers each statement with one row, which holds the statement itself. -/
def echo : Database String where
  ping := .ok ()
  vocabulary _ := .ok .string
  prepare := .ok
  bind st _ _ := .ok st
  fetchFirst st := .ok (some ((TaggedObject.new "row").setField "text" "string" (.string st)))

def echoed (statement : String) : Record :=
  ⟨⟨Keyed.empty.insert "text" .string⟩, Keyed.empty.insert "text" (.string statement)⟩

theorem echoed_injective {a b : String} (h : echoed a = echoed b) : a = b := by
  obtain ⟨⟩ : some (Value.string a) = some (.string b) := congrArg (·.get? "text") h
  rfl

theorem values_echo (slot : Nat) (st : String) (values : List Value) :
    (Bound.values echo.bind slot st values).statement = st ∧
      (Bound.values echo.bind slot st values).outcome = .ok () := by
  induction values generalizing slot with
  | nil => exact ⟨rfl, rfl⟩
  | cons v rest ih => exact ih (slot + 1)

theorem fetch_echo (statement : String) (key : Value) (args : Arguments) :
    (RowLookup.fetch echo statement key args).outcome = .ok (some (echoed statement)) := by
  obtain ⟨hs, ho⟩ := values_echo 1 statement (args.map (·.2))
  have hrespond : echo.respond statement (args.map (·.2)) = echo.fetchFirst statement := by
    change ((Bound.values echo.bind 1 statement (args.map (·.2))).outcome >>= fun _ =>
      echo.fetchFirst (Bound.values echo.bind 1 statement (args.map (·.2))).statement) = _
    rw [hs, ho]
    rfl
  rw [RowLookup.fetch, Traced.mapError, RowLookup.outcome_select, hrespond]
  rfl

def columnSettings (column : String) : RowSettings :=
  { tableName := "t", valueColumns := [column], whereClause := "id = ?"
    cache := { capacity := 1, clearOnEnable := false } }

def trueKey : Coordinates := Keyed.empty.insert "key" (.boolean true)

/-- One column is looked up, and then another one takes its place. -/
def reconfigured : List (RowStep String) :=
  [.enable echo (columnSettings "a"), .lookup echo trueKey, .enable echo (columnSettings "b")]

theorem record_provenance_reconfigured :
    ((new 0).run reconfigured).answer echo trueKey =
      .outcome (.ok (some (echoed "SELECT a FROM t WHERE id = ?"))) ∧
    ∃ r key, ((new 0).run reconfigured).service.read = .ok r ∧
      keyValue? trueKey r.settings.keyName = some key ∧
      ∃ earlier db' coordinates' later r',
        reconfigured ++ [.lookup echo trueKey] = earlier ++ .lookup db' coordinates' :: later ∧
        ((new 0).run earlier).service.read = .ok r' ∧
        RowLookup.Fetches db' coordinates' ((new 0).run earlier).now r'
          ⟨r.settings.tableName, key⟩ (echoed "SELECT a FROM t WHERE id = ?") ∧
        (((new 0).run earlier).step (.lookup db' coordinates')).KeepsAll later ∧
        r'.settings.tableName = r.settings.tableName ∧
        (r'.settings = r.settings ∨ ∃ db'', .enable db'' r.settings ∈ later) :=
  have h : ((new 0).run reconfigured).answer echo trueKey =
      .outcome (.ok (some (echoed "SELECT a FROM t WHERE id = ?"))) := by
    with_unfolding_all rfl
  ⟨h, record_provenance h⟩

/-- It is not the case that each answered record was found by the statement of the settings. -/
theorem not_from_own_statement :
    ¬ ∀ (now : Moment) (before : List (RowStep String)) (db : Database String)
      (coordinates : Coordinates) (r : RowResources) (record : Record),
      ((new now).run before).service.read = .ok r →
      ((new now).run before).answer db coordinates = .outcome (.ok (some record)) →
      ∃ earlier db' coordinates' later r' k,
        before ++ [.lookup db coordinates] = earlier ++ .lookup db' coordinates' :: later ∧
        ((new now).run earlier).service.read = .ok r' ∧
        r'.settings.query.text = r.settings.query.text ∧
        RowLookup.Fetches db' coordinates' ((new now).run earlier).now r' k record := by
  intro h
  have hr : ((new 0).run reconfigured).service.read = .ok (RowLookup.resources (columnSettings "b")
      ((new 0).run (reconfigured.take 2)).service.resources) :=
    read_enable.2 ⟨rfl, rfl, rfl⟩
  obtain ⟨earlier, db', coordinates', later, r', k, hsplit, -, htext, args, -, hfetch⟩ :=
    h 0 reconfigured echo trueKey _ (echoed "SELECT a FROM t WHERE id = ?") hr
      (by with_unfolding_all rfl)
  have hmem : .lookup db' coordinates' ∈ reconfigured ++ [.lookup echo trueKey] := by
    rw [hsplit]
    exact List.mem_append_right _ List.mem_cons_self
  obtain rfl : db' = echo := by
    simp only [reconfigured, List.cons_append, List.nil_append, List.mem_cons, reduceCtorEq,
      RowStep.lookup.injEq, List.not_mem_nil, or_false, false_or] at hmem
    rcases hmem with ⟨rfl, -⟩ | ⟨rfl, -⟩ <;> rfl
  have hother : (columnSettings "b").query.text ≠ "SELECT a FROM t WHERE id = ?" := by decide
  rw [htext, fetch_echo, Except.ok.injEq, Option.some.injEq] at hfetch
  exact hother (echoed_injective hfetch)

end RowSession
end KeyedRecords
