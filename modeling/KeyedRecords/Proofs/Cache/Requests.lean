import KeyedRecords.Cache.Records

/-!
What a request to a record cache does, case by case, and where the entries that it leaves come
from. An entry that is there after a request was there before, perhaps read or given another record
by the request, or was created by it (`entry_of_get`, `entry_of_put`).
-/

namespace KeyedRecords.RecordCache

variable {c c' c'' : RecordCache} {now : Moment} {k k' : CacheKey} {r : Record} {e e' : CacheEntry}

/-- Gives the entry of `k` anew and makes `k` the most recently used key. -/
def renew (c : RecordCache) (k : CacheKey) (e : CacheEntry) : RecordCache :=
  { c with entries := c.entries.insert k e }.touch k

/-- Adds an entry under a new key. -/
def add (c : RecordCache) (k : CacheKey) (e : CacheEntry) : RecordCache :=
  { c with entries := c.entries.insert k e, recency := c.recency ++ [k] }.recount

/-- Without the entry of `k`, which is expired if it is there. -/
def vacate (c : RecordCache) (k : CacheKey) : RecordCache :=
  if c.entries.contains k then c.dropExpired k else c

/-- Whether `k` has an entry that is not expired. -/
def isLive (c : RecordCache) (now : Moment) (k : CacheKey) : Bool :=
  (c.entries.get? k).any fun e => !e.isExpired now

/-! ## Gets and puts, case by case -/

theorem get_of_off (h : c.settings.isEnabled = false) : c.get now k = (none, c.countMiss) := by
  simp [get, h]

theorem get_of_missing (h : c.entries.get? k = none) : c.get now k = (none, c.countMiss) := by
  simp [get, h]

theorem get_of_expired (hon : c.settings.isEnabled) (h : c.entries.get? k = some e)
    (he : e.isExpired now) : c.get now k = (none, (c.dropExpired k).countMiss) := by
  simp [get, hon, h, he]

theorem get_of_live (hon : c.settings.isEnabled) (h : c.entries.get? k = some e)
    (he : e.isExpired now = false) :
    c.get now k = (some e.record, (c.renew k (e.accessed now)).countHit) := by
  simp [get, hon, h, he, renew]

theorem get_cases (c : RecordCache) (now : Moment) (k : CacheKey) :
    c.get now k = (none, c.countMiss) ∨
    (∃ e, c.settings.isEnabled ∧ c.entries.get? k = some e ∧ e.isExpired now ∧
      c.get now k = (none, (c.dropExpired k).countMiss)) ∨
    ∃ e, c.settings.isEnabled ∧ c.entries.get? k = some e ∧ e.isExpired now = false ∧
      c.get now k = (some e.record, (c.renew k (e.accessed now)).countHit) := by
  cases hon : c.settings.isEnabled with
  | false => exact .inl (get_of_off hon)
  | true =>
    cases h : c.entries.get? k with
    | none => exact .inl (get_of_missing h)
    | some e =>
      cases he : e.isExpired now with
      | false => exact .inr (.inr ⟨e, rfl, rfl, he, get_of_live hon h he⟩)
      | true => exact .inr (.inl ⟨e, rfl, rfl, he, get_of_expired hon h he⟩)

theorem put_of_off (h : c.settings.isEnabled = false) : c.put now k r = ⟨c, false⟩ := by
  simp [put, h]

theorem put_of_live (hon : c.settings.isEnabled) (h : c.entries.get? k = some e)
    (he : e.isExpired now = false) : c.put now k r = ⟨c.renew k (e.replaced r), false⟩ := by
  simp [put, hon, h, he, renew]

theorem put_of_dead (hon : c.settings.isEnabled) (h : c.isLive now k = false) :
    c.put now k r = (c.vacate k).putNew now k r := by
  cases hk : c.entries.get? k with
  | none => simp [put, hon, hk, vacate, Keyed.contains]
  | some e =>
    have he : e.isExpired now = true := by simpa [isLive, hk] using h
    simp [put, hon, hk, he, vacate, Keyed.contains]

theorem isLive_iff :
    c.isLive now k ↔ ∃ e, c.entries.get? k = some e ∧ e.isExpired now = false := by
  cases h : c.entries.get? k <;> simp [isLive, h]

theorem put_cases (c : RecordCache) (now : Moment) (k : CacheKey) (r : Record) :
    (c.settings.isEnabled = false ∧ c.put now k r = ⟨c, false⟩) ∨
    (∃ e, c.entries.get? k = some e ∧ e.isExpired now = false ∧
      c.put now k r = ⟨c.renew k (e.replaced r), false⟩) ∨
    (c.settings.isEnabled ∧ c.isLive now k = false ∧
      c.put now k r = (c.vacate k).putNew now k r) := by
  cases hon : c.settings.isEnabled with
  | false => exact .inl ⟨rfl, put_of_off hon⟩
  | true =>
    cases hl : c.isLive now k with
    | false => exact .inr (.inr ⟨rfl, rfl, put_of_dead hon hl⟩)
    | true =>
      obtain ⟨e, h, he⟩ := isLive_iff.1 hl
      exact .inr (.inl ⟨e, h, he, put_of_live hon h he⟩)

/-! ## Requests leave the settings alone -/

@[simp] theorem settings_purge : (c.purge now).2.settings = c.settings := by
  unfold purge
  split <;> rfl

@[simp] theorem settings_makeRoom : (c.makeRoom now).settings = c.settings := by
  unfold makeRoom
  split
  · rfl
  · exact settings_purge

@[simp] theorem settings_vacate : (c.vacate k).settings = c.settings := by
  unfold vacate
  split <;> rfl

theorem putNew_cases (c : RecordCache) (now : Moment) (k : CacheKey) (r : Record) :
    (CacheEntry.create? now k r c.settings.effectiveTtl = none ∧
      c.putNew now k r = ⟨c.makeRoom now, true⟩) ∨
    ∃ e, CacheEntry.create? now k r c.settings.effectiveTtl = some e ∧
      c.putNew now k r = ⟨(c.makeRoom now).add k e, false⟩ := by
  have hs : (c.makeRoom now).settings = c.settings := settings_makeRoom
  rw [← hs]
  cases h : CacheEntry.create? now k r (c.makeRoom now).settings.effectiveTtl with
  | none => exact .inl ⟨rfl, by simp only [putNew, h]⟩
  | some e => exact .inr ⟨e, rfl, by simp only [putNew, h]; rfl⟩

@[simp] theorem settings_get : (c.get now k).2.settings = c.settings := by
  rcases c.get_cases now k with h | ⟨e, -, -, -, h⟩ | ⟨e, -, -, -, h⟩ <;> rw [h] <;> rfl

@[simp] theorem settings_put : (c.put now k r).cache.settings = c.settings := by
  rcases c.put_cases now k r with ⟨-, h⟩ | ⟨e, -, -, h⟩ | ⟨-, -, h⟩
  · rw [h]
  · rw [h]; rfl
  · rw [h, ← settings_vacate (c := c) (k := k)]
    rcases (c.vacate k).putNew_cases now k r with ⟨-, h⟩ | ⟨e, -, h⟩
    · rw [h]; exact settings_makeRoom
    · rw [h]; exact settings_makeRoom (c := c.vacate k)

/-- Storing breaks off only on an expiry past the last moment. -/
theorem overflow_put (h : (c.put now k r).overflow) :
    c.settings.isEnabled ∧ CacheEntry.expiry? now c.settings.effectiveTtl = none := by
  rcases c.put_cases now k r with ⟨-, hp⟩ | ⟨e, -, -, hp⟩ | ⟨hon, -, hp⟩ <;> rw [hp] at h
  · cases h
  · cases h
  · rcases (c.vacate k).putNew_cases now k r with ⟨he, -⟩ | ⟨e, -, hn⟩
    · exact ⟨hon, CacheEntry.create?_eq_none_iff.1 (by simpa using he)⟩
    · rw [hn] at h; cases h

@[simp] theorem settings_remove : (c.remove k).2.settings = c.settings := by
  unfold remove
  split <;> rfl

/-! ## Dropping entries -/

/-- Every entry of `c'` is one of `c`. -/
def Within (c' c : RecordCache) : Prop :=
  ∀ k e, c'.entries.get? k = some e → c.entries.get? k = some e

theorem Within.refl (c : RecordCache) : c.Within c := fun _ _ h => h

theorem Within.trans (h : c''.Within c') (h' : c'.Within c) : c''.Within c :=
  fun k e he => h' k e (h k e he)

theorem Within.get?_eq_none (h : c'.Within c) (hk : c.entries.get? k = none) :
    c'.entries.get? k = none := by
  cases he : c'.entries.get? k with
  | none => rfl
  | some e => exact absurd (h k e he) (by simp [hk])

theorem get?_without (p : CacheKey → Bool) :
    (c.without p).entries.get? k = if p k then none else c.entries.get? k := by
  cases hk : c.entries.get? k <;> cases hp : p k <;> simp [without, recount, hk, hp]

theorem within_without (p : CacheKey → Bool) : (c.without p).Within c := by
  intro k e h
  rw [get?_without] at h
  split at h
  · cases h
  · exact h

theorem get?_dropExpired :
    (c.dropExpired k).entries.get? k' = if k' = k then none else c.entries.get? k' :=
  (get?_without (c := c) (· = k)).trans (by simp)

theorem within_dropExpired : (c.dropExpired k).Within c := within_without (c := c) (· = k)

theorem within_vacate : (c.vacate k).Within c := by
  unfold vacate
  split
  · exact within_dropExpired
  · exact .refl c

theorem get?_vacate :
    (c.vacate k).entries.get? k' = if k' = k then none else c.entries.get? k' := by
  unfold vacate
  split
  · exact get?_dropExpired
  · next h =>
    split
    · next hk => subst hk; simpa [Keyed.contains] using h
    · rfl

theorem contains_expiredKeys :
    (c.expiredKeys now).contains k = (c.entries.get? k).any fun e => e.isExpired now := by
  rw [Bool.eq_iff_iff, List.contains_iff_mem, Option.any_eq_true]
  simp [expiredKeys, ← Keyed.mem_pairs_iff]

/-- Without expired entries there is nothing to drop; all that differs is the counters. -/
theorem purge_fields :
    (c.purge now).2.entries = (c.without (c.expiredKeys now).contains).entries ∧
      (c.purge now).2.recency = (c.without (c.expiredKeys now).contains).recency := by
  unfold purge
  split
  · next h => simp [h, without, recount, Keyed.filter, List.filter_eq_self.2]
  · next h => exact ⟨rfl, rfl⟩

theorem within_purge : (c.purge now).2.Within c := by
  unfold purge
  split
  · exact .refl c
  · exact within_without (c := c) _

theorem within_dropOldest (capacity : Nat) (entries : Keyed CacheKey CacheEntry)
    (queue : List CacheKey) (h : (dropOldest capacity entries queue).1.get? k = some e) :
    entries.get? k = some e := by
  induction queue generalizing entries with
  | nil => exact h
  | cons k' rest ih =>
    simp only [dropOldest] at h
    split at h
    · exact h
    · have hk := ih _ h
      rw [Keyed.get?_erase] at hk
      split at hk
      · cases hk
      · exact hk

theorem within_makeRoom : (c.makeRoom now).Within c := by
  unfold makeRoom
  split
  · exact .refl c
  · exact .trans (fun k e => within_dropOldest _ _ _) within_purge

/-! ## Where entries come from -/

theorem get?_renew :
    (c.renew k e).entries.get? k' = if k = k' then some e else c.entries.get? k' := by
  simp [renew, touch]

theorem get?_add : (c.add k e).entries.get? k' = if k = k' then some e else c.entries.get? k' := by
  simp [add, recount]

/-- A get leaves entries that were there before; it may note that it read its own. -/
theorem entry_of_get (h : (c.get now k).2.entries.get? k' = some e') :
    ∃ e, c.entries.get? k' = some e ∧ (e' = e ∨ e' = e.accessed now) := by
  rcases c.get_cases now k with hg | ⟨e, -, -, -, hg⟩ | ⟨e, -, hk, -, hg⟩ <;> rw [hg] at h
  · exact ⟨e', h, .inl rfl⟩
  · exact ⟨e', within_dropExpired _ _ h, .inl rfl⟩
  · obtain h : (c.renew k (e.accessed now)).entries.get? k' = some e' := h
    rw [get?_renew] at h
    split at h
    · next hkk => cases hkk; cases h; exact ⟨e, hk, .inr rfl⟩
    · exact ⟨e', h, .inl rfl⟩

/-- A get gives back the record of an entry. -/
theorem entry_of_hit (h : (c.get now k).1 = some r) :
    ∃ e, c.settings.isEnabled ∧ c.entries.get? k = some e ∧ e.record = r := by
  rcases c.get_cases now k with hg | ⟨_, -, -, -, hg⟩ | ⟨e, hon, he, -, hg⟩ <;> rw [hg] at h <;>
    cases h
  exact ⟨e, hon, he, rfl⟩

/-- A put leaves entries that were there before, gives its record to the live one under its key, or
creates one where there is none. -/
theorem entry_of_put (h : (c.put now k r).cache.entries.get? k' = some e') :
    c.entries.get? k' = some e' ∨
    (k' = k ∧ ∃ e, c.entries.get? k = some e ∧ e.isExpired now = false ∧ e' = e.replaced r) ∨
    (k' = k ∧ c.isLive now k = false ∧
      CacheEntry.create? now k r c.settings.effectiveTtl = some e') := by
  rcases c.put_cases now k r with ⟨-, hp⟩ | ⟨e, hk, he, hp⟩ | ⟨-, hl, hp⟩ <;> rw [hp] at h
  · exact .inl h
  · rw [get?_renew] at h
    split at h
    · next hkk => cases hkk; cases h; exact .inr (.inl ⟨rfl, e, hk, he, rfl⟩)
    · exact .inl h
  · have hroom : ((c.vacate k).makeRoom now).Within c := within_makeRoom.trans within_vacate
    rcases (c.vacate k).putNew_cases now k r with ⟨-, hn⟩ | ⟨e, he, hn⟩ <;> rw [hn] at h
    · exact .inl (hroom _ _ h)
    · rw [get?_add] at h
      split at h
      · next hkk =>
        cases hkk
        cases h
        exact .inr (.inr ⟨rfl, hl, by simpa using he⟩)
      · exact .inl (hroom _ _ h)

theorem within_remove : (c.remove k).2.Within c := by
  unfold remove
  split
  · exact .refl c
  · exact within_without (c := c) (· = k)

theorem within_clear : c.clear.2.Within c := fun _ _ h => nomatch h

end KeyedRecords.RecordCache
