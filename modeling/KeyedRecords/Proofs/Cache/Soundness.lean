import KeyedRecords.Proofs.Cache.Requests
import KeyedRecords.Proofs.Cache.Session

/-!
The representation of a record cache. The queue of keys names each key of the map once, every entry
lies under its own key, and there are never more entries than the capacity allows
(`RecordCache.Sound`). Each request keeps this, one that breaks off included. The counter of entries
is right as long as no request has broken off.
-/

namespace KeyedRecords

theorem filter_ne_eq_self {k : CacheKey} {keys : List CacheKey} (h : k ∉ keys) :
    keys.filter (· ≠ k) = keys := by
  refine List.filter_eq_self.2 fun k' hk' => ?_
  have hne : k' ≠ k := by
    rintro rfl
    exact h hk'
  simpa using hne

namespace RecordCache

variable {c c' : RecordCache} {now : Moment} {k : CacheKey} {r : Record} {e e' : CacheEntry}

structure Sound (c : RecordCache) : Prop where
  nodup : c.recency.Nodup
  mem_recency : ∀ k, k ∈ c.recency ↔ k ∈ c.entries.keys
  key_eq : ∀ k e, c.entries.get? k = some e → e.key = k
  size_le : c.size ≤ c.settings.capacity

/-- The counter of entries shows how many there are. -/
def Counted (c : RecordCache) : Prop := c.stats.entries = c.size

theorem size_renew (h : c.entries.get? k = some e') : (c.renew k e).size = c.size := by
  have hmem : k ∈ c.entries.keys := Keyed.mem_keys_iff.2 ⟨_, h⟩
  have hkeys : (c.renew k e).entries.keys = c.entries.keys := by
    simp [renew, touch, Keyed.keys_insert, hmem]
  rw [size, Keyed.size_eq_length_keys, hkeys, ← Keyed.size_eq_length_keys, size]

theorem size_add (h : c.entries.get? k = none) : (c.add k e).size = c.size + 1 := by
  have hkeys : (c.add k e).entries.keys = c.entries.keys ++ [k] := by
    simp [add, recount, Keyed.keys_insert, Keyed.get?_eq_none_iff.1 h]
  rw [size, Keyed.size_eq_length_keys, hkeys, List.length_append, ← Keyed.size_eq_length_keys,
    List.length_singleton, size]

namespace Sound

theorem new (settings : CacheSettings) : (RecordCache.new settings).Sound where
  nodup := List.nodup_nil
  mem_recency _ := Iff.rfl
  key_eq _ _ h := nomatch h
  size_le := Nat.zero_le _

/-- Counters play no part. -/
theorem of_eq (h : c.Sound) (hs : c'.settings = c.settings) (he : c'.entries = c.entries)
    (hr : c'.recency = c.recency) : c'.Sound where
  nodup := hr ▸ h.nodup
  mem_recency := by rw [hr, he]; exact h.mem_recency
  key_eq := by rw [he]; exact h.key_eq
  size_le := by rw [size, hs, he]; exact h.size_le

theorem size_eq (h : c.Sound) : c.size = c.recency.length := by
  have hp := (List.perm_ext_iff_of_nodup h.nodup c.entries.distinct).2 h.mem_recency
  rw [size, Keyed.size_eq_length_keys, hp.length_eq]
  rfl

theorem mem_recency_iff (h : c.Sound) : k ∈ c.recency ↔ ∃ e, c.entries.get? k = some e :=
  (h.mem_recency k).trans Keyed.mem_keys_iff

theorem without (h : c.Sound) (p : CacheKey → Bool) : (c.without p).Sound where
  nodup := h.nodup.filter _
  mem_recency k := by
    have hr : k ∈ (c.without p).recency ↔ k ∈ c.recency ∧ p k = false := by
      simp [RecordCache.without, recount]
    rw [hr, h.mem_recency_iff, Keyed.mem_keys_iff, get?_without]
    cases p k <;> simp
  key_eq k e he := h.key_eq k e (within_without p k e he)
  size_le := Nat.le_trans (List.length_filter_le _ _) h.size_le

theorem dropExpired (h : c.Sound) : (c.dropExpired k).Sound := (h.without (· = k)).of_eq rfl rfl rfl

theorem vacate (h : c.Sound) : (c.vacate k).Sound := by
  unfold RecordCache.vacate
  split
  · exact h.dropExpired
  · exact h

/-- The entry of a key may be changed, but not the key. -/
theorem renew (h : c.Sound) (hk : c.entries.get? k = some e') (he : e.key = k) :
    (c.renew k e).Sound := by
  have hmem : k ∈ c.entries.keys := Keyed.mem_keys_iff.2 ⟨_, hk⟩
  have hkeys : (c.renew k e).entries.keys = c.entries.keys := by
    simp [RecordCache.renew, touch, Keyed.keys_insert, hmem]
  refine ⟨?_, fun k' => ?_, fun k' e' he' => ?_, ?_⟩
  · refine List.nodup_append.2 ⟨h.nodup.filter _, by simp, ?_⟩
    simp
  · rw [hkeys, ← h.mem_recency]
    have hr : k' ∈ (c.renew k e).recency ↔ k' ∈ c.recency ∧ k' ≠ k ∨ k' = k := by
      simp [RecordCache.renew, touch]
    rw [hr]
    constructor
    · rintro (⟨hk', -⟩ | rfl)
      · exact hk'
      · exact (h.mem_recency _).2 hmem
    · intro hk'
      by_cases hkk : k' = k
      · exact .inr hkk
      · exact .inl ⟨hk', hkk⟩
  · rw [get?_renew] at he'
    split at he'
    · next hkk => cases hkk; cases he'; exact he
    · exact h.key_eq k' e' he'
  · rw [size_renew hk]
    exact h.size_le

theorem purge (h : c.Sound) : (c.purge now).2.Sound := by
  unfold RecordCache.purge
  split
  · exact h
  · exact (h.without _).of_eq rfl rfl rfl

end Sound

theorem dropOldest_of_lt {capacity : Nat} {entries : Keyed CacheKey CacheEntry}
    {queue : List CacheKey} (h : entries.size < capacity) :
    dropOldest capacity entries queue = (entries, queue, 0) := by
  cases queue <;> simp [dropOldest, h]

theorem size_erase_lt {entries : Keyed CacheKey CacheEntry} (h : k ∈ entries.keys) :
    (entries.erase k).size < entries.size := by
  rw [Keyed.size_eq_length_keys, Keyed.size_eq_length_keys, Keyed.keys_erase]
  exact List.length_filter_lt_length_iff_exists.2 ⟨k, h, by simp⟩

/-- With a capacity for one entry at least, making room for a new one drops no entry or the one that
was least recently used. -/
theorem Sound.evict_cases (h : c.Sound) (hon : 0 < c.settings.capacity) :
    (c.size < c.settings.capacity ∧ c.evict = c) ∨
    ∃ k rest, c.recency = k :: rest ∧ c.size = c.settings.capacity ∧
      c.evict =
        { c with
          entries := c.entries.erase k, recency := rest
          stats := { c.stats with evictionsCapacity := c.stats.evictionsCapacity + 1 } } := by
  by_cases hlt : c.size < c.settings.capacity
  · refine .inl ⟨hlt, ?_⟩
    rw [evict, dropOldest_of_lt hlt]
    rfl
  have hsize : c.size = c.settings.capacity := Nat.le_antisymm h.size_le (Nat.le_of_not_lt hlt)
  cases hq : c.recency with
  | nil =>
    have hz : c.size = 0 := by rw [h.size_eq, hq]; rfl
    omega
  | cons k rest =>
    refine .inr ⟨k, rest, rfl, hsize, ?_⟩
    have hk : k ∈ c.entries.keys := (h.mem_recency k).1 (hq ▸ List.mem_cons_self)
    have hroom : (c.entries.erase k).size < c.settings.capacity :=
      hsize ▸ size_erase_lt hk
    have hfull : ¬c.entries.size < c.settings.capacity := hlt
    simp only [evict, hq, dropOldest, if_neg hfull, dropOldest_of_lt hroom]

namespace Sound

theorem evict (h : c.Sound) (hon : 0 < c.settings.capacity) :
    c.evict.Sound ∧ c.evict.size < c.settings.capacity := by
  rcases h.evict_cases hon with ⟨hlt, he⟩ | ⟨k, rest, hq, hsize, he⟩
  · rw [he]
    exact ⟨h, hlt⟩
  have hk : k ∈ c.entries.keys := (h.mem_recency k).1 (hq ▸ List.mem_cons_self)
  have hlt : (c.entries.erase k).size < c.settings.capacity := hsize ▸ size_erase_lt hk
  obtain ⟨hkr, hrest⟩ := List.nodup_cons.1 (hq ▸ h.nodup)
  rw [he]
  refine ⟨⟨hrest, fun k' => ?_, fun k' e' he' => h.key_eq k' e' ?_, Nat.le_of_lt hlt⟩, hlt⟩
  · have hm := h.mem_recency k'
    rw [hq, List.mem_cons] at hm
    simp only [Keyed.keys_erase, List.mem_filter, ← hm]
    grind
  · simp only [Keyed.get?_erase] at he'
    split at he'
    · cases he'
    · exact he'

theorem makeRoom (h : c.Sound) (hon : 0 < c.settings.capacity) :
    (c.makeRoom now).Sound ∧ (c.makeRoom now).size < c.settings.capacity := by
  unfold RecordCache.makeRoom
  split
  · next hlt => exact ⟨h, hlt⟩
  · have hs : (c.purge now).2.settings = c.settings := settings_purge
    have hp : (c.purge now).2.Sound := h.purge
    exact hs ▸ hp.evict (hs ▸ hon)

theorem add (h : c.Sound) (hroom : c.size < c.settings.capacity) (hk : c.entries.get? k = none)
    (he : e.key = k) : (c.add k e).Sound := by
  have hmem : k ∉ c.entries.keys := Keyed.get?_eq_none_iff.1 hk
  have hkeys : (c.add k e).entries.keys = c.entries.keys ++ [k] := by
    simp [RecordCache.add, recount, Keyed.keys_insert, hmem]
  refine ⟨?_, fun k' => ?_, fun k' e' he' => ?_, ?_⟩
  · refine List.nodup_append.2 ⟨h.nodup, by simp, fun a ha b hb => ?_⟩
    rintro rfl
    exact hmem (List.mem_singleton.1 hb ▸ (h.mem_recency a).1 ha)
  · rw [hkeys, List.mem_append, ← h.mem_recency]
    exact List.mem_append
  · rw [get?_add] at he'
    split at he'
    · next hkk => cases hkk; cases he'; exact he
    · exact h.key_eq k' e' he'
  · rw [size_add hk]
    exact hroom

theorem get (h : c.Sound) : (c.get now k).2.Sound := by
  rcases c.get_cases now k with hg | ⟨e, -, -, -, hg⟩ | ⟨e, -, hk, -, hg⟩ <;> rw [hg]
  · exact h.of_eq rfl rfl rfl
  · exact h.dropExpired.of_eq rfl rfl rfl
  · have hr : (c.renew k (e.accessed now)).Sound := h.renew hk (h.key_eq k e hk)
    exact hr.of_eq rfl rfl rfl

theorem putNew (h : c.Sound) (hon : 0 < c.settings.capacity) (hk : c.entries.get? k = none) :
    (c.putNew now k r).cache.Sound := by
  obtain ⟨hr, hroom⟩ : (c.makeRoom now).Sound ∧ (c.makeRoom now).size < _ := h.makeRoom hon
  rcases c.putNew_cases now k r with ⟨-, hn⟩ | ⟨e, he, hn⟩ <;> rw [hn]
  · exact hr
  · have hs : (c.makeRoom now).settings = c.settings := settings_makeRoom
    exact hr.add (hs ▸ hroom) (within_makeRoom.get?_eq_none hk) (CacheEntry.of_create? he).1

theorem put (h : c.Sound) : (c.put now k r).cache.Sound := by
  rcases c.put_cases now k r with ⟨-, hp⟩ | ⟨e, hk, -, hp⟩ | ⟨hon, -, hp⟩ <;> rw [hp]
  · exact h
  · exact h.renew hk (h.key_eq k e hk)
  · refine h.vacate.putNew ?_ (by simp [get?_vacate])
    simpa [CacheSettings.isEnabled] using hon

theorem remove (h : c.Sound) : (c.remove k).2.Sound := by
  unfold RecordCache.remove
  split
  · exact h
  · exact (h.without (· = k)).of_eq rfl rfl rfl

theorem clear : c.clear.2.Sound := (RecordCache.Sound.new c.settings).of_eq rfl rfl rfl

end Sound

/-! ## The counter of entries -/

namespace Counted

theorem renew (h : c.Counted) (hk : c.entries.get? k = some e') : (c.renew k e).Counted :=
  Eq.trans h (size_renew hk).symm

theorem purge (h : c.Counted) : (c.purge now).2.Counted := by
  unfold RecordCache.purge
  split
  · exact h
  · rfl

theorem get (h : c.Counted) : (c.get now k).2.Counted := by
  rcases c.get_cases now k with hg | ⟨e, -, -, -, hg⟩ | ⟨e, -, hk, -, hg⟩ <;> rw [hg]
  · exact h
  · rfl
  · exact h.renew hk

/-- The entries are counted again only when the new one is there. -/
theorem put (h : c.Counted) (hp : (c.put now k r).overflow = false) :
    (c.put now k r).cache.Counted := by
  rcases c.put_cases now k r with ⟨-, he⟩ | ⟨e, hk, -, he⟩ | ⟨-, -, he⟩ <;> rw [he] at hp ⊢
  · exact h
  · exact h.renew hk
  · rcases (c.vacate k).putNew_cases now k r with ⟨-, hn⟩ | ⟨e, -, hn⟩ <;> rw [hn] at hp ⊢
    · cases hp
    · rfl

theorem remove (h : c.Counted) : (c.remove k).2.Counted := by
  unfold RecordCache.remove
  split
  · exact h
  · rfl

end Counted

end RecordCache

namespace CacheSession

open RecordCache

variable {s : CacheSession}

/-- What holds of a cache in use, whatever was asked of it. -/
structure Sound (settings : CacheSettings) (s : CacheSession) : Prop where
  settings_eq : s.cache.settings = settings
  sound : s.cache.Sound
  counted : s.broken = false → s.cache.Counted

theorem Sound.step {settings : CacheSettings} (h : s.Sound settings) (x : CacheStep) :
    (s.step x).Sound settings := by
  cases x with
  | get k => exact ⟨settings_get.trans h.settings_eq, h.sound.get, fun hb => (h.counted hb).get⟩
  | put k r =>
    refine ⟨settings_put.trans h.settings_eq, h.sound.put, fun hb => ?_⟩
    obtain ⟨hb, ho⟩ := Bool.or_eq_false_iff.1 hb
    exact (h.counted hb).put ho
  | remove k =>
    exact ⟨settings_remove.trans h.settings_eq, h.sound.remove, fun hb => (h.counted hb).remove⟩
  | clear => exact ⟨h.settings_eq, .clear, fun _ => rfl⟩
  | purge =>
    exact ⟨settings_purge.trans h.settings_eq, h.sound.purge, fun hb => (h.counted hb).purge⟩
  | clock now => exact ⟨h.settings_eq, h.sound, h.counted⟩

theorem Sound.run {settings : CacheSettings} (h : s.Sound settings) (steps : List CacheStep) :
    (s.run steps).Sound settings := by
  induction steps generalizing s with
  | nil => exact h
  | cons x rest ih => exact ih (h.step x)

theorem sound_new (settings : CacheSettings) (now : Moment) : (new settings now).Sound settings :=
  ⟨rfl, .new settings, fun _ => rfl⟩

/-- After any run of requests and clock readings, some of which may have broken off, the queue and
the map of a cache name the same keys, each once, every entry lies under its own key, and the
capacity is not exceeded. If nothing broke off, the counter of entries is right. -/
theorem representation_run (settings : CacheSettings) (now : Moment) (steps : List CacheStep) :
    let s := (new settings now).run steps
    s.cache.recency.Nodup ∧ (∀ k, k ∈ s.cache.recency ↔ k ∈ s.cache.entries.keys) ∧
      (∀ k e, s.cache.entries.get? k = some e → e.key = k) ∧
      s.cache.size ≤ settings.capacity ∧
      (s.broken = false → s.cache.stats.entries = s.cache.size) := by
  intro s
  have h : s.Sound settings := (sound_new settings now).run steps
  have hsize : s.cache.size ≤ settings.capacity := by
    rw [← h.settings_eq]
    exact h.sound.size_le
  exact ⟨h.sound.nodup, h.sound.mem_recency, h.sound.key_eq, hsize, h.counted⟩

end CacheSession

end KeyedRecords
