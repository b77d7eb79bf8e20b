import KeyedRecords.Proofs.Cache.Room

/-!
The counters of a record cache against what was asked of it. Every get is a hit or a miss. Every
lifetime that a put has begun is still there, or was counted where it ended: once, and by the
counter for the way in which it ended (`counters_conserved`).
-/

namespace KeyedRecords

/-! ## Hits and misses -/

namespace RecordCache

variable {c c' : RecordCache} {now : Moment} {k : CacheKey} {r : Record} {e : CacheEntry}

theorem stats_get_of_some (h : (c.get now k).1 = some r) :
    (c.get now k).2.stats.hits = c.stats.hits + 1 ∧
      (c.get now k).2.stats.misses = c.stats.misses := by
  rcases c.get_cases now k with hg | ⟨e, -, -, -, hg⟩ | ⟨e, -, -, -, hg⟩ <;> rw [hg] at h ⊢
  · cases h
  · cases h
  · exact ⟨rfl, rfl⟩

theorem stats_get_of_none (h : (c.get now k).1 = none) :
    (c.get now k).2.stats.hits = c.stats.hits ∧
      (c.get now k).2.stats.misses = c.stats.misses + 1 := by
  rcases c.get_cases now k with hg | ⟨e, -, -, -, hg⟩ | ⟨e, -, -, -, hg⟩ <;> rw [hg] at h ⊢
  · exact ⟨rfl, rfl⟩
  · exact ⟨rfl, rfl⟩
  · cases h

/-- As many hits and misses were counted in one cache as in the other. -/
def SameLookups (c' c : RecordCache) : Prop :=
  c'.stats.hits = c.stats.hits ∧ c'.stats.misses = c.stats.misses

theorem SameLookups.trans {c c' c'' : RecordCache} (h : c''.SameLookups c')
    (h' : c'.SameLookups c) : c''.SameLookups c :=
  ⟨h.1.trans h'.1, h.2.trans h'.2⟩

theorem sameLookups_vacate : (c.vacate k).SameLookups c := by
  unfold vacate
  split <;> exact ⟨rfl, rfl⟩

theorem sameLookups_purge : (c.purge now).2.SameLookups c := by
  unfold purge
  split <;> exact ⟨rfl, rfl⟩

theorem sameLookups_makeRoom : (c.makeRoom now).SameLookups c := by
  unfold makeRoom
  split
  · exact ⟨rfl, rfl⟩
  · exact sameLookups_purge

theorem sameLookups_roomFor : (c.roomFor now k).SameLookups c :=
  sameLookups_makeRoom.trans sameLookups_vacate

theorem sameLookups_put : (c.put now k r).cache.SameLookups c := by
  rcases c.put_outcome_cases now k r with ⟨-, h⟩ | ⟨e, -, -, h⟩ | ⟨-, -, h⟩ | ⟨-, -, e, -, h⟩ <;>
    rw [h]
  · exact ⟨rfl, rfl⟩
  · exact ⟨rfl, rfl⟩
  · exact sameLookups_roomFor
  · exact sameLookups_roomFor

theorem sameLookups_remove : (c.remove k).2.SameLookups c := by
  unfold remove
  split <;> exact ⟨rfl, rfl⟩

/-! ## Lifetimes, open and ended -/

/-- The entries that are there, and those that were counted when they were dropped. -/
def admitted (c : RecordCache) : Nat :=
  c.size + c.stats.evictionsCapacity + c.stats.evictionsTtl + c.stats.invalidations

theorem evictionsTtl_purge : (c.purge now).2.stats.evictionsTtl =
    c.stats.evictionsTtl + (c.expiredKeys now).length := by
  unfold purge
  split
  · next h => simp [h]
  · rfl

theorem evictionsCapacity_purge :
    (c.purge now).2.stats.evictionsCapacity = c.stats.evictionsCapacity := by
  unfold purge
  split <;> rfl

theorem invalidations_purge : (c.purge now).2.stats.invalidations = c.stats.invalidations := by
  unfold purge
  split <;> rfl

theorem admitted_purge : (c.purge now).2.admitted = c.admitted := by
  have hsize := c.size_purge now
  rw [admitted, evictionsTtl_purge, evictionsCapacity_purge, invalidations_purge, admitted]
  omega

theorem admitted_dropExpired (hk : c.entries.get? k = some e) :
    (c.dropExpired k).admitted = c.admitted := by
  have hsize := size_dropExpired hk
  change (c.dropExpired k).size + c.stats.evictionsCapacity + (c.stats.evictionsTtl + 1) +
    c.stats.invalidations = c.admitted
  rw [admitted]
  omega

theorem admitted_displace {rest : List CacheKey} (hk : c.entries.get? k = some e) :
    (c.displace k rest).admitted = c.admitted := by
  have hsize := size_displace hk rest
  change (c.displace k rest).size + (c.stats.evictionsCapacity + 1) + c.stats.evictionsTtl +
    c.stats.invalidations = c.admitted
  rw [admitted]
  omega

/-- Whatever gives way to a new entry is counted. -/
theorem Sound.admitted_roomFor (h : c.Sound) (hon : 0 < c.settings.capacity)
    (hl : c.isLive now k = false) : (c.roomFor now k).admitted = c.admitted := by
  rcases h.roomFor_cases hon hl with ⟨e, hk, -, hr⟩ | ⟨-, -, hr⟩ | ⟨-, -, -, hr⟩ |
    ⟨-, -, -, victim, rest, hq, hr⟩ <;> rw [hr]
  · exact admitted_dropExpired hk
  · exact admitted_purge
  · obtain ⟨e, he⟩ := h.mem_recency_iff.1 (hq ▸ List.mem_cons_self)
    exact admitted_displace he

theorem admitted_add (hk : c.entries.get? k = none) : (c.add k e).admitted = c.admitted + 1 := by
  have hsize : (c.add k e).size = c.size + 1 := size_add hk
  change (c.add k e).size + c.stats.evictionsCapacity + c.stats.evictionsTtl +
    c.stats.invalidations = c.admitted + 1
  rw [admitted]
  omega

theorem admitted_renew {e' : CacheEntry} (hk : c.entries.get? k = some e') :
    (c.renew k e).admitted = c.admitted := by
  have hsize : (c.renew k e).size = c.size := size_renew hk
  rw [admitted, hsize]
  rfl

theorem admitted_get : (c.get now k).2.admitted = c.admitted := by
  rcases c.get_cases now k with hg | ⟨e, -, hk, -, hg⟩ | ⟨e, -, hk, -, hg⟩ <;> rw [hg]
  · rfl
  · exact admitted_dropExpired hk
  · exact admitted_renew (e := e.accessed now) hk

theorem get?_roomFor_self : (c.roomFor now k).entries.get? k = none :=
  within_makeRoom.get?_eq_none (by simp [get?_vacate])

theorem Sound.get?_of_off (h : c.Sound) (hoff : c.settings.isEnabled = false) :
    c.entries.get? k = none := by
  have hle := h.size_le
  have hcapacity : c.settings.capacity = 0 := by simpa [CacheSettings.isEnabled] using hoff
  rw [hcapacity, h.size_eq] at hle
  have hnil : c.recency = [] := List.eq_nil_of_length_eq_zero (Nat.le_zero.1 hle)
  rw [Keyed.get?_eq_none_iff, ← h.mem_recency, hnil]
  exact List.not_mem_nil

/-- Whether a put of `k` has begun a lifetime: `k` had no live entry and has one now. -/
def begins (c c' : RecordCache) (now : Moment) (k : CacheKey) : Bool :=
  !c.isLive now k && c'.entries.contains k

theorem Sound.admitted_put (h : c.Sound) (hp : (c.put now k r).overflow = false) :
    (c.put now k r).cache.admitted =
      c.admitted + if c.begins (c.put now k r).cache now k then 1 else 0 := by
  rcases c.put_outcome_cases now k r with ⟨hoff, he⟩ | ⟨e, hk, hx, he⟩ | ⟨-, -, he⟩ |
    ⟨hon, hl, e, -, he⟩ <;> rw [he] at hp ⊢
  · simp [begins, Keyed.contains, h.get?_of_off hoff]
  · have hlive : c.isLive now k = true := isLive_iff.2 ⟨e, hk, hx⟩
    rw [admitted_renew hk, begins, hlive]
    rfl
  · cases hp
  · rw [admitted_add get?_roomFor_self, h.admitted_roomFor hon hl]
    simp [begins, hl, Keyed.contains, get?_add]

theorem admitted_remove : (c.remove k).2.admitted = c.admitted := by
  cases hk : c.entries.get? k with
  | none => simp only [remove, hk]
  | some e =>
    have hsize : (c.without (· = k)).size + 1 = c.size := size_dropExpired hk
    simp only [remove, hk]
    change (c.without (· = k)).size + c.stats.evictionsCapacity + c.stats.evictionsTtl +
      (c.stats.invalidations + 1) = c.admitted
    rw [admitted]
    omega

theorem admitted_clear : c.clear.2.admitted = c.admitted := by
  change 0 + c.stats.evictionsCapacity + c.stats.evictionsTtl + (c.stats.invalidations + c.size) =
    c.admitted
  rw [admitted]
  omega

/-! ## Expired entries that were found -/

/-- How many of the entries that are expired in `c` are not in `c'`. -/
def lost (c c' : RecordCache) (now : Moment) : Nat :=
  (c.expiredKeys now).countP fun k => c'.entries.get? k ≠ c.entries.get? k

theorem lost_eq_zero
    (h : ∀ k e, c.entries.get? k = some e → e.isExpired now → c'.entries.get? k = some e) :
    c.lost c' now = 0 := by
  refine List.countP_eq_zero.2 fun k hk => ?_
  obtain ⟨e, he, hx⟩ := mem_expiredKeys.1 hk
  simp [he, h k e he hx]

theorem lost_self : c.lost c now = 0 := lost_eq_zero fun _ _ he _ => he

theorem lost_eq_one (hk : c.entries.get? k = some e) (hx : e.isExpired now)
    (hself : c'.entries.get? k ≠ some e)
    (hother : ∀ k', k' ≠ k → c'.entries.get? k' = c.entries.get? k') : c.lost c' now = 1 := by
  have hcount : c.lost c' now = (c.expiredKeys now).count k := by
    refine List.countP_congr fun k' _ => ?_
    by_cases hkk : k' = k
    · simp [hkk, hk, hself]
    · simp [hkk, hother k' hkk]
  rw [hcount, nodup_expiredKeys.count, if_pos (mem_expiredKeys.2 ⟨e, hk, hx⟩)]

theorem lost_eq_length
    (h : ∀ k e, c.entries.get? k = some e → e.isExpired now → c'.entries.get? k ≠ some e) :
    c.lost c' now = (c.expiredKeys now).length := by
  refine List.countP_eq_length.2 fun k hk => ?_
  obtain ⟨e, he, hx⟩ := mem_expiredKeys.1 hk
  simpa [he] using h k e he hx

/-- An entry outlives the moment at which it is created. -/
theorem isExpired_of_create? {settings : CacheSettings}
    (h : CacheEntry.create? now k r settings.effectiveTtl = some e) : e.isExpired now = false := by
  obtain ⟨-, -, hexp⟩ := CacheEntry.of_create? h
  cases httl : settings.effectiveTtl with
  | none =>
    simp only [httl, CacheEntry.expiry?, Option.some.injEq] at hexp
    simp [CacheEntry.isExpired, ← hexp]
  | some ttl =>
    have hpos : 0 < ttl.nanos := by
      obtain ⟨-, hz⟩ := Option.filter_eq_some_iff.1 httl
      exact Nat.pos_of_ne_zero (by simpa [Span.isZero] using hz)
    simp only [httl, CacheEntry.expiry?] at hexp
    split at hexp
    · simp only [Option.some.injEq] at hexp
      simp [CacheEntry.isExpired, ← hexp]
    · split at hexp
      · simp only [Option.some.injEq] at hexp
        simp only [CacheEntry.isExpired, ← hexp, decide_eq_false_iff_not]
        exact Int.not_le.2 (Int.lt_add_of_pos_right now (Int.natCast_pos.2 hpos))
      · cases hexp

theorem lost_renew {e' : CacheEntry} (hk : c.entries.get? k = some e')
    (hx : e'.isExpired now = false) : c.lost (c.renew k e) now = 0 := by
  refine lost_eq_zero fun k' e₁ he₁ hx₁ => ?_
  have hne : ¬k = k' := by
    rintro rfl
    rw [hk] at he₁
    cases he₁
    rw [hx] at hx₁
    cases hx₁
  rw [get?_renew, if_neg hne, he₁]

theorem lost_purge : c.lost (c.purge now).2 now = (c.expiredKeys now).length := by
  refine lost_eq_length fun k e hk hx => ?_
  simp [get?_purge, hk, hx, Option.filter]

/-- What was found expired on the way from `c` to `c'` has been counted. -/
def CountsLost (c c' : RecordCache) (now : Moment) : Prop :=
  c'.stats.evictionsTtl = c.stats.evictionsTtl + c.lost c' now

theorem CountsLost.of_lost {n : Nat} (hlost : c.lost c' now = n)
    (h : c'.stats.evictionsTtl = c.stats.evictionsTtl + n) : c.CountsLost c' now := by
  rw [CountsLost, hlost, h]

theorem countsLost_get : c.CountsLost (c.get now k).2 now := by
  rcases c.get_cases now k with hg | ⟨e, -, hk, hx, hg⟩ | ⟨e, -, hk, hx, hg⟩ <;> rw [hg]
  · exact .of_lost (n := 0) lost_self rfl
  · refine .of_lost (lost_eq_one hk hx ?_ fun k' hne => ?_) rfl
    · have hgone : (c.dropExpired k).entries.get? k = none := get?_dropExpired.trans (if_pos rfl)
      exact fun h => nomatch hgone.symm.trans h
    · exact get?_dropExpired.trans (if_neg hne)
  · exact .of_lost (n := 0) (lost_renew hk hx) rfl

/-- A put that begins a lifetime has found expired what gave way to the new entry for that reason,
and nothing else. -/
theorem Sound.countsLost_add (h : c.Sound) (hon : 0 < c.settings.capacity)
    (hl : c.isLive now k = false) (hx : e.isExpired now = false) :
    c.CountsLost ((c.roomFor now k).add k e) now := by
  rcases h.roomFor_cases hon hl with ⟨old, hk, hold, hr⟩ | ⟨hk, -, hr⟩ | ⟨hk, -, -, hr⟩ |
    ⟨-, -, hnone, _, _, -, hr⟩ <;> rw [hr]
  · refine .of_lost (lost_eq_one hk hold ?_ fun k' hne => ?_) rfl
    · rw [get?_add, if_pos rfl]
      rintro ⟨⟩
      rw [hx] at hold
      cases hold
    · rw [get?_add, if_neg (Ne.symm hne), get?_dropExpired, if_neg hne]
  · refine .of_lost (n := 0) (lost_eq_zero fun k' e' hk' _ => ?_) rfl
    rw [get?_add, if_neg (ne_of_missing hk hk').symm, hk']
  · refine .of_lost (lost_eq_length fun k' e' hk' hx' => ?_) evictionsTtl_purge
    simp [get?_add, (ne_of_missing hk hk').symm, get?_purge, hk', hx', Option.filter]
  · exact .of_lost (n := 0) (by rw [lost, hnone, List.countP_nil]) rfl

theorem Sound.countsLost_put (h : c.Sound) (hp : (c.put now k r).overflow = false) :
    c.CountsLost (c.put now k r).cache now := by
  rcases c.put_outcome_cases now k r with ⟨-, he⟩ | ⟨e, hk, hx, he⟩ | ⟨-, -, he⟩ |
    ⟨hon, hl, e, hcreate, he⟩ <;> rw [he] at hp ⊢
  · exact .of_lost (n := 0) lost_self rfl
  · exact .of_lost (n := 0) (lost_renew hk hx) rfl
  · cases hp
  · exact h.countsLost_add hon hl (isExpired_of_create? hcreate)

/-! ## Entries that were taken out -/

theorem invalidations_get : (c.get now k).2.stats.invalidations = c.stats.invalidations := by
  rcases c.get_cases now k with hg | ⟨e, -, -, -, hg⟩ | ⟨e, -, -, -, hg⟩ <;> rw [hg] <;> rfl

theorem invalidations_roomFor :
    (c.roomFor now k).stats.invalidations = c.stats.invalidations := by
  have hvacate : (c.vacate k).stats.invalidations = c.stats.invalidations := by
    unfold vacate
    split <;> rfl
  rw [roomFor, ← hvacate, makeRoom]
  split
  · rfl
  · exact invalidations_purge

theorem invalidations_put :
    (c.put now k r).cache.stats.invalidations = c.stats.invalidations := by
  rcases c.put_outcome_cases now k r with ⟨-, h⟩ | ⟨e, -, -, h⟩ | ⟨-, -, h⟩ | ⟨-, -, e, -, h⟩ <;>
    rw [h]
  · rfl
  · exact invalidations_roomFor
  · exact invalidations_roomFor

theorem invalidations_remove : (c.remove k).2.stats.invalidations =
    c.stats.invalidations + if (c.remove k).1.isSome then 1 else 0 := by
  unfold remove
  split <;> rfl

end RecordCache

/-! ## Sums over a run -/

def CacheStep.isGet : CacheStep → Bool
  | .get _ => true
  | _ => false

namespace CacheSession

open RecordCache

variable {s : CacheSession} {settings : CacheSettings} {x : CacheStep} {steps : List CacheStep}

/-- The sum over a run of what each step amounts to in the state before it. -/
def total (amount : CacheSession → CacheStep → Nat) (s : CacheSession) : List CacheStep → Nat
  | [] => 0
  | x :: rest => amount s x + (s.step x).total amount rest

theorem total_add (f g : CacheSession → CacheStep → Nat) :
    s.total (fun s x => f s x + g s x) steps = s.total f steps + s.total g steps := by
  induction steps generalizing s with
  | nil => rfl
  | cons x rest ih =>
    simp only [total, ih]
    omega

theorem total_eq_countP (p : CacheStep → Bool) :
    s.total (fun _ x => if p x then 1 else 0) steps = steps.countP p := by
  induction steps generalizing s with
  | nil => rfl
  | cons x rest ih =>
    simp only [total, ih, List.countP_cons]
    omega

/-- What every step that does not break off adds to a measure of the cache is added by a run. -/
theorem total_run (measure : RecordCache → Nat) {amount : CacheSession → CacheStep → Nat}
    (hstep : ∀ s x, s.Sound settings → (s.step x).broken = false →
      measure (s.step x).cache = measure s.cache + amount s x)
    (hs : s.Sound settings) (hb : (s.run steps).broken = false) :
    measure (s.run steps).cache = measure s.cache + s.total amount steps := by
  induction steps generalizing s with
  | nil => rfl
  | cons x rest ih =>
    have hb : ((s.step x).run rest).broken = false := hb
    have hrest := ih (hs.step x) hb
    have hfirst := hstep s x hs (unbroken_of_run hb)
    change measure ((s.step x).run rest).cache =
      measure s.cache + (amount s x + (s.step x).total amount rest)
    omega

theorem overflow_of_unbroken {k : CacheKey} {r : Record}
    (h : (s.step (.put k r)).broken = false) : (s.cache.put s.now k r).overflow = false :=
  (Bool.or_eq_false_iff.1 h).2

/-- Gets that find a live record. -/
def found (s : CacheSession) : CacheStep → Nat
  | .get k => if (s.cache.get s.now k).1.isSome then 1 else 0
  | _ => 0

theorem hits_step : (s.step x).cache.stats.hits = s.cache.stats.hits + s.found x := by
  cases x with
  | get k =>
    cases hg : (s.cache.get s.now k).1 with
    | some r =>
      simp only [found, hg]
      exact (stats_get_of_some hg).1
    | none =>
      simp only [found, hg]
      exact (stats_get_of_none hg).1
  | put k r => exact sameLookups_put.1
  | remove k => exact sameLookups_remove.1
  | purge => exact sameLookups_purge.1
  | clear | clock => rfl

theorem lookups_step : (s.step x).cache.stats.hits + (s.step x).cache.stats.misses =
    s.cache.stats.hits + s.cache.stats.misses + if x.isGet then 1 else 0 := by
  have hsame {c c' : RecordCache} (h : c'.SameLookups c) :
      c'.stats.hits + c'.stats.misses = c.stats.hits + c.stats.misses + 0 := by
    rw [h.1, h.2]
    rfl
  cases x with
  | get k =>
    simp only [step, CacheStep.isGet, if_true]
    cases hg : (s.cache.get s.now k).1 with
    | some r =>
      obtain ⟨hhits, hmisses⟩ := stats_get_of_some hg
      omega
    | none =>
      obtain ⟨hhits, hmisses⟩ := stats_get_of_none hg
      omega
  | put k r => exact hsame sameLookups_put
  | remove k => exact hsame sameLookups_remove
  | purge => exact hsame sameLookups_purge
  | clear | clock => rfl

/-- Puts that begin a lifetime. -/
def begun (s : CacheSession) : CacheStep → Nat
  | .put k r => if s.cache.begins (s.step (.put k r)).cache s.now k then 1 else 0
  | _ => 0

theorem admitted_step (hs : s.Sound settings) (hb : (s.step x).broken = false) :
    (s.step x).cache.admitted = s.cache.admitted + s.begun x := by
  cases x with
  | get k => exact admitted_get
  | put k r => exact hs.sound.admitted_put (overflow_of_unbroken hb)
  | remove k => exact admitted_remove
  | clear => exact admitted_clear
  | purge => exact admitted_purge
  | clock now => rfl

/-- Entries that a step finds expired and drops for that reason. A remove and a clear take what they
find, expired or not. -/
def expired (s : CacheSession) : CacheStep → Nat
  | .remove _ | .clear => 0
  | x => s.cache.lost (s.step x).cache s.now

theorem evictionsTtl_step (hs : s.Sound settings) (hb : (s.step x).broken = false) :
    (s.step x).cache.stats.evictionsTtl = s.cache.stats.evictionsTtl + s.expired x := by
  cases x with
  | get k => exact countsLost_get
  | put k r => exact hs.sound.countsLost_put (overflow_of_unbroken hb)
  | remove k =>
    simp only [step, remove]
    split <;> rfl
  | clear => rfl
  | purge => exact CountsLost.of_lost lost_purge evictionsTtl_purge
  | clock now => exact CountsLost.of_lost (n := 0) lost_self rfl

/-- Removes that find an entry. -/
def removed (s : CacheSession) : CacheStep → Nat
  | .remove k => if (s.cache.remove k).1.isSome then 1 else 0
  | _ => 0

/-- The entries that a clear says it has dropped. -/
def cleared (s : CacheSession) : CacheStep → Nat
  | .clear => s.cache.clear.1
  | _ => 0

theorem invalidations_step : (s.step x).cache.stats.invalidations =
    s.cache.stats.invalidations + (s.removed x + s.cleared x) := by
  cases x with
  | get k => exact invalidations_get
  | put k r => exact invalidations_put
  | remove k => exact invalidations_remove
  | clear =>
    simp only [removed, cleared, Nat.zero_add]
    rfl
  | purge => exact invalidations_purge
  | clock now => rfl

/-- After any run that has not broken off: each get was a hit or a miss; each lifetime that a put
began is still there or was counted by one of the three counters of endings; `evictionsTtl` counts
the entries that were found expired, and `invalidations` those that were removed or cleared. -/
theorem counters_conserved (settings : CacheSettings) (start : Moment) (steps : List CacheStep)
    (hb : ((new settings start).run steps).broken = false) :
    let s := new settings start
    let c := (s.run steps).cache
    c.stats.hits = s.total found steps ∧
      c.stats.hits + c.stats.misses = steps.countP CacheStep.isGet ∧
      s.total begun steps = c.size + c.stats.evictionsCapacity + c.stats.evictionsTtl +
        c.stats.invalidations ∧
      c.stats.evictionsTtl = s.total expired steps ∧
      c.stats.invalidations = s.total removed steps + s.total cleared steps := by
  intro s c
  have hs : s.Sound settings := sound_new settings start
  have hhits : c.stats.hits = 0 + s.total found steps :=
    total_run (·.stats.hits) (fun _ _ _ _ => hits_step) hs hb
  have hlookups : c.stats.hits + c.stats.misses = 0 + s.total _ steps :=
    total_run (fun c => c.stats.hits + c.stats.misses) (fun _ _ _ _ => lookups_step) hs hb
  have hadmitted : c.admitted = 0 + s.total begun steps :=
    total_run admitted (fun _ _ => admitted_step) hs hb
  have hexpired : c.stats.evictionsTtl = 0 + s.total expired steps :=
    total_run (·.stats.evictionsTtl) (fun _ _ => evictionsTtl_step) hs hb
  have htaken : c.stats.invalidations = 0 + s.total _ steps :=
    total_run (·.stats.invalidations) (fun _ _ _ _ => invalidations_step) hs hb
  rw [Nat.zero_add] at hhits hlookups hadmitted hexpired htaken
  rw [total_eq_countP] at hlookups
  rw [total_add] at htaken
  exact ⟨hhits, hlookups, hadmitted.symm, hexpired, htaken⟩

/-- Of nine lifetimes one gives way to a third key, five are found expired, in each of the four
ways, and three are taken out. -/
theorem counters_conserved_mixed :
    let k (n : Int64) : CacheKey := ⟨"T", .long n⟩
    let r (n : Int64) : Record := ⟨⟨.empty⟩, Keyed.ofList [("id", .long n)]⟩
    let settings : CacheSettings := { capacity := 2, ttl := some ⟨5⟩ }
    let steps : List CacheStep := [.put (k 1) (r 1), .put (k 2) (r 2), .put (k 3) (r 3), .clock 5,
      .get (k 2), .put (k 3) (r 3), .put (k 4) (r 4), .clock 10, .put (k 5) (r 5), .get (k 5),
      .put (k 5) (r 6), .clock 15, .purge, .put (k 6) (r 6), .remove (k 6), .remove (k 6),
      .put (k 7) (r 7), .put (k 8) (r 8), .clear]
    let s := new settings 0
    let c := (s.run steps).cache
    (s.run steps).broken = false ∧ s.total begun steps = 9 ∧ s.total expired steps = 5 ∧
      s.total removed steps = 1 ∧ s.total cleared steps = 2 ∧
      c.size + c.stats.evictionsCapacity = 1 ∧ c.stats.evictionsTtl = 5 ∧
      c.stats.invalidations = 3 ∧ c.stats.hits + c.stats.misses = 2 := by
  intro k r settings steps
  dsimp only
  have hb : ((new settings 0).run steps).broken = false := by decide
  have hbegun : (new settings 0).total begun steps = 9 := by decide
  have hexpired : (new settings 0).total expired steps = 5 := by decide
  have hremoved : (new settings 0).total removed steps = 1 := by decide
  have hcleared : (new settings 0).total cleared steps = 2 := by decide
  have hgets : steps.countP CacheStep.isGet = 2 := by decide
  obtain ⟨-, hlookups, hlifetimes, httl, hinvalid⟩ := counters_conserved settings 0 steps hb
  refine ⟨hb, hbegun, hexpired, hremoved, hcleared, ?_, ?_, ?_, ?_⟩ <;> omega

end CacheSession
end KeyedRecords
