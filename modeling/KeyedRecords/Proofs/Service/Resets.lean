import KeyedRecords.Proofs.Service.Provenance

/-!
What takes the cached records away from a table lookup: disabling it, an enabling that fails, and
one that wants the cache cleared or of another size or lifetime (`RowSession.Resets`). A record that
is served was fetched after the last of these, and any other enabling hands the cache on as it is.
-/

namespace KeyedRecords

variable {σ : Type} {db : Database σ} {settings : RowSettings}

namespace RowLookup

theorem outcome_enable_eq_ok_iff (service : RowLookup) :
    (enable db settings service).1.outcome = .ok () ↔
      settings.check = .ok () ∧ db.ping = .ok () := by
  unfold enable
  cases hc : settings.check with
  | error e => simp [Lifecycle.enable, Except.map]
  | ok _ =>
    cases hp : db.ping with
    | error e => simp [Lifecycle.enable, Except.map]
    | ok u =>
      cases u
      simp [Lifecycle.enable, Except.map]

theorem cacheFor_of_fits {r : RowResources} {wanted : CacheSettings} (hf : r.Fits)
    (hclear : ¬(wanted.clearOnEnable ∧ 0 < wanted.capacity))
    (hcapacity : r.settings.cache.capacity = wanted.capacity)
    (httl : r.settings.cache.effectiveTtl = wanted.effectiveTtl) :
    cacheFor (some r) wanted = r.cache := by
  have hc : r.cache.settings.capacity = wanted.capacity := hf.capacity_eq.trans hcapacity
  have ht : r.cache.settings.effectiveTtl = wanted.effectiveTtl := hf.ttl_eq.trans httl
  have hn : needsNewCache r.cache wanted = false := by
    simpa [needsNewCache, CacheSettings.isEnabled, hc, ht] using hclear
  simp [cacheFor, hn]

end RowLookup

namespace RowSession

variable {s : RowSession} {x : RowStep σ} {pre post later : List (RowStep σ)}
  {coordinates : Coordinates} {r : RowResources}

/-- The step ends the service, or begins it anew with no record of before. -/
def Resets (s : RowSession) : RowStep σ → Prop
  | .enable db settings =>
    (RowLookup.enable db settings s.service).1.outcome ≠ .ok () ∨
      (settings.cache.clearOnEnable ∧ 0 < settings.cache.capacity) ∨
      ∃ r, s.service.read = .ok r ∧
        (r.settings.cache.capacity ≠ settings.cache.capacity ∨
          r.settings.cache.effectiveTtl ≠ settings.cache.effectiveTtl)
  | .disable => ∃ r, s.service.read = .ok r
  | .clock _ => False
  | .lookup _ _ => False

theorem not_resets_of_keeps (hs : s.Fits) (h : s.Keeps x) : ¬s.Resets x := by
  cases x with
  | enable db settings =>
    obtain ⟨hc, hp, r, hr, hn⟩ := h
    simp only [RowLookup.needsNewCache, CacheSettings.isEnabled, Bool.or_eq_false_iff,
      bne_eq_false_iff_eq] at hn
    obtain ⟨⟨hclear, hcapacity⟩, httl⟩ := hn
    rintro (hfail | ⟨hwanted, hpos⟩ | ⟨r', hr', hsize⟩)
    · exact hfail ((RowLookup.outcome_enable_eq_ok_iff s.service).2 ⟨hc, hp⟩)
    · simp [hwanted, hpos] at hclear
    · cases hr.symm.trans hr'
      have hf : r.Fits := hs r hr
      rcases hsize with hsize | hsize
      · exact hsize (hf.capacity_eq.symm.trans hcapacity)
      · exact hsize (hf.ttl_eq.symm.trans httl)
  | disable => exact h.elim
  | clock now => exact id
  | lookup db coordinates => exact id

theorem KeepsAll.keeps (h : s.KeepsAll (pre ++ x :: post)) : (s.run pre).Keeps x := by
  induction pre generalizing s with
  | nil => exact h.1
  | cons y rest ih => exact ih h.2

/-- If all steps after a lookup keep the cache, whatever resets it comes before the lookup. -/
theorem prefix_of_resets {earlier whole : List (RowStep σ)} (hs : s.Fits)
    (hkeep : ((s.run earlier).step (.lookup db coordinates)).KeepsAll later)
    (hwhole : whole = earlier ++ .lookup db coordinates :: later)
    (hsplit : whole = pre ++ x :: post) (hx : (s.run pre).Resets x) : pre ++ [x] <+: earlier := by
  rw [hwhole] at hsplit
  rcases List.append_eq_append_iff.1 hsplit with ⟨mid, rfl, hmid⟩ | ⟨mid, rfl, hmid⟩
  · cases mid with
    | nil =>
      obtain ⟨rfl, -⟩ := List.cons.inj hmid
      exact hx.elim
    | cons y rest =>
      obtain ⟨rfl, rfl⟩ := List.cons.inj hmid
      rw [run_append, run_cons] at hx
      exact (not_resets_of_keeps hs.run.step.run hkeep.keeps hx).elim
  · cases mid with
    | nil =>
      obtain ⟨rfl, -⟩ := List.cons.inj hmid
      rw [List.append_nil] at hkeep
      exact hx.elim
    | cons y rest =>
      obtain ⟨rfl, -⟩ := List.cons.inj hmid
      exact ⟨rest, by simp⟩

/-- An enabling that does not reset the service succeeds, and hands the cache on. -/
theorem read_enable_of_not_resets (hs : s.Fits) (hr : s.service.read = .ok r)
    (hx : ¬s.Resets (.enable db settings)) :
    ∃ r', (s.step (.enable db settings)).service.read = .ok r' ∧ r'.cache = r.cache := by
  simp only [Resets, not_or, Classical.not_not] at hx
  obtain ⟨hok, hclear, hsize⟩ := hx
  obtain ⟨hc, hp⟩ := (RowLookup.outcome_enable_eq_ok_iff s.service).1 hok
  have hcapacity : r.settings.cache.capacity = settings.cache.capacity :=
    Decidable.byContradiction fun hne => hsize ⟨r, hr, .inl hne⟩
  have httl : r.settings.cache.effectiveTtl = settings.cache.effectiveTtl :=
    Decidable.byContradiction fun hne => hsize ⟨r, hr, .inr hne⟩
  refine ⟨_, read_enable.2 ⟨hc, hp, rfl⟩, ?_⟩
  rw [Lifecycle.read_eq_ok_iff.1 hr]
  exact RowLookup.cacheFor_of_fits (hs r hr) hclear hcapacity httl

/-- After any run of a table lookup: a record that is served was found in the database after every
step that reset the service; an enabling of the enabled service that does not reset it leaves the
cache with all that is in it; and the cache that serves after an enabling has the capacity and the
lifetime of its settings. -/
theorem served_since_reset (now : Moment) (before : List (RowStep σ)) :
    let s := (new now).run before
    (∀ (db : Database σ) (coordinates : Coordinates) (record : Record),
      s.answer db coordinates = .outcome (.ok (some record)) →
      ∃ r key earlier db' coordinates' later r', s.service.read = .ok r ∧
        keyValue? coordinates r.settings.keyName = some key ∧
        before ++ [.lookup db coordinates] = earlier ++ .lookup db' coordinates' :: later ∧
        ((new now).run earlier).service.read = .ok r' ∧
        RowLookup.Fetches db' coordinates' ((new now).run earlier).now r'
          ⟨r.settings.tableName, key⟩ record ∧
        ∀ pre x post, before = pre ++ x :: post → ((new now).run pre).Resets x →
          pre ++ [x] <+: earlier) ∧
    (∀ (db : Database σ) (settings : RowSettings) (r : RowResources),
      s.service.read = .ok r → ¬s.Resets (.enable db settings) →
      ∃ r', (s.step (.enable db settings)).service.read = .ok r' ∧ r'.cache = r.cache) ∧
    ∀ (db : Database σ) (settings : RowSettings),
      (RowLookup.enable db settings s.service).1.outcome = .ok () →
      ∃ r, (s.step (.enable db settings)).service.read = .ok r ∧ r.settings = settings ∧
        r.cache.settings.capacity = settings.cache.capacity ∧
        r.cache.settings.effectiveTtl = settings.cache.effectiveTtl := by
  intro s
  have hs : s.Fits := (fits_new now).run
  refine ⟨?_, ?_, ?_⟩
  · intro db coordinates record h
    obtain ⟨r, key, hr, hk, earlier, db', coordinates', later, r', hsplit, hr', hf, hkeep⟩ :=
      obtains_of_answer h
    refine ⟨r, key, earlier, db', coordinates', later, r', hr, hk, hsplit, hr', hf, ?_⟩
    intro pre x post hbefore hx
    have hwhole : before ++ [.lookup db coordinates] =
        pre ++ x :: (post ++ [.lookup db coordinates]) := by
      rw [hbefore, List.append_assoc, List.cons_append]
    exact prefix_of_resets (fits_new now) hkeep hsplit hwhole hx
  · intro db settings r hr hx
    exact read_enable_of_not_resets hs hr hx
  · intro db settings hok
    obtain ⟨hc, hp⟩ := (RowLookup.outcome_enable_eq_ok_iff s.service).1 hok
    have hf := RowLookup.fits_resources settings s.service.resources
    exact ⟨_, read_enable.2 ⟨hc, hp, rfl⟩, rfl, hf.capacity_eq, hf.ttl_eq⟩

/-- A lookup before the service is disabled, and one after it is enabled again. -/
def reopened : List (RowStep String) :=
  [.enable echo (columnSettings "a"), .lookup echo trueKey, .disable,
    .enable echo (columnSettings "a"), .lookup echo trueKey]

/-- The record in the cache is that of the second lookup. An enabling for another column leaves it
there. -/
theorem served_since_reset_reopened :
    let s := (new 0).run reopened
    s.answer echo trueKey = .outcome (.ok (some (echoed "SELECT a FROM t WHERE id = ?"))) ∧
    (∃ earlier db' coordinates' later r' k,
      reopened ++ [.lookup echo trueKey] = earlier ++ .lookup db' coordinates' :: later ∧
      RowLookup.Fetches db' coordinates' ((new 0).run earlier).now r' k
        (echoed "SELECT a FROM t WHERE id = ?") ∧
      reopened.take 3 <+: earlier) ∧
    ∃ r r', s.service.read = .ok r ∧ r.cache.size = 1 ∧
      (s.step (.enable echo (columnSettings "b"))).service.read = .ok r' ∧ r'.cache = r.cache := by
  intro s
  obtain ⟨hserved, hkept, -⟩ := served_since_reset 0 reopened
  have ha : s.answer echo trueKey =
      .outcome (.ok (some (echoed "SELECT a FROM t WHERE id = ?"))) := by
    with_unfolding_all rfl
  obtain ⟨r, key, earlier, db', coordinates', later, r', hr, -, hsplit, -, hf, hresets⟩ :=
    hserved echo trueKey _ ha
  have hdisable : ((new 0).run (reopened.take 2)).Resets (.disable : RowStep String) :=
    ⟨_, by with_unfolding_all rfl⟩
  refine ⟨ha, ⟨earlier, db', coordinates', later, r', _, hsplit, hf, ?_⟩, ?_⟩
  · exact hresets (reopened.take 2) .disable (reopened.drop 3) rfl hdisable
  · have hsettings : s.service.resources.map (fun r => (r.settings, r.cache.size)) =
        some (columnSettings "a", 1) := by
      with_unfolding_all rfl
    rw [Lifecycle.read_eq_ok_iff.1 hr, Option.map_some, Option.some.injEq, Prod.mk.injEq]
      at hsettings
    have hnot : ¬s.Resets (.enable echo (columnSettings "b")) := by
      rintro (hfail | ⟨hclear, -⟩ | ⟨r'', hr'', hsize⟩)
      · exact hfail ((RowLookup.outcome_enable_eq_ok_iff s.service).2 ⟨rfl, rfl⟩)
      · cases hclear
      · cases hr.symm.trans hr''
        rw [hsettings.1] at hsize
        exact hsize.elim (· rfl) (· rfl)
    obtain ⟨r'', hr'', hcache⟩ := hkept echo (columnSettings "b") r hr hnot
    exact ⟨r, r'', hr, hsettings.2, hr'', hcache⟩

end RowSession
end KeyedRecords
