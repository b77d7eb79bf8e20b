import KeyedRecords.Proofs.Cache.Soundness

/-!
The room that a put makes for a new entry. In a sound cache it costs nothing, or the expired entry
of the same key, or all expired entries, or the one that was least recently used
(`RecordCache.Sound.roomFor_cases`), and none of these goes together with another.
-/

namespace KeyedRecords

theorem Keyed.size_erase {α β : Type} [DecidableEq α] (m : Keyed α β) (k : α) :
    (m.erase k).size + (if k ∈ m.keys then 1 else 0) = m.size := by
  have hkeys : (m.erase k).keys = m.keys.erase k := by
    have hnodup : m.keys.Nodup := m.distinct
    rw [keys_erase, hnodup.erase_eq_filter]
    exact List.filter_congr fun a _ => by simp [bne, Bool.beq_eq_decide_eq]
  rw [size_eq_length_keys, size_eq_length_keys, hkeys, List.length_erase]
  split
  · next hk =>
    have hpos := List.length_pos_of_mem hk
    omega
  · rfl

namespace RecordCache

variable {c : RecordCache} {now : Moment} {k k' : CacheKey} {r : Record} {e : CacheEntry}

/-! ## Expired entries -/

theorem mem_expiredKeys :
    k ∈ c.expiredKeys now ↔ ∃ e, c.entries.get? k = some e ∧ e.isExpired now := by
  simp [expiredKeys, ← Keyed.mem_pairs_iff]

theorem nodup_expiredKeys : (c.expiredKeys now).Nodup :=
  c.entries.distinct.sublist (List.filter_sublist.map _)

theorem isExpired_of_expiredKeys_eq_nil (h : c.expiredKeys now = [])
    (hk : c.entries.get? k = some e) : e.isExpired now = false := by
  cases he : e.isExpired now with
  | false => rfl
  | true =>
    have hmem : k ∈ c.expiredKeys now := mem_expiredKeys.2 ⟨e, hk, he⟩
    rw [h] at hmem
    cases hmem

theorem get?_purge : (c.purge now).2.entries.get? k =
    (c.entries.get? k).filter fun e => !e.isExpired now := by
  rw [purge_fields.1, get?_without, contains_expiredKeys]
  cases c.entries.get? k with
  | none => rfl
  | some e => cases he : e.isExpired now <;> simp [Option.filter, he]

theorem size_purge (c : RecordCache) (now : Moment) :
    (c.purge now).2.size + (c.expiredKeys now).length = c.size := by
  have hkept : (c.purge now).2.entries.pairs =
      c.entries.pairs.filter fun p => !p.2.isExpired now := by
    rw [purge_fields.1]
    refine List.filter_congr fun p hp => ?_
    rw [contains_expiredKeys, Keyed.mem_pairs_iff.1 hp, Option.any_some]
  have hsplit := c.entries.pairs.length_eq_countP_add_countP fun p => p.2.isExpired now
  simp only [Bool.not_eq_true, Bool.decide_eq_false, List.countP_eq_length_filter] at hsplit
  rw [size, Keyed.size, hkept, expiredKeys, List.length_map, size, Keyed.size]
  omega

theorem ne_of_missing (hk : c.entries.get? k = none) (hk' : c.entries.get? k' = some e) :
    k' ≠ k := by
  rintro rfl
  rw [hk] at hk'
  cases hk'

/-! ## Room for one more entry -/

theorem makeRoom_of_lt (h : c.size < c.settings.capacity) : c.makeRoom now = c := by
  rw [makeRoom, if_pos h]

theorem makeRoom_of_full (h : ¬c.size < c.settings.capacity) :
    c.makeRoom now = (c.purge now).2.evict := by
  rw [makeRoom, if_neg h]

theorem purge_of_expiredKeys_eq_nil (h : c.expiredKeys now = []) : c.purge now = (0, c) := by
  simp only [purge, h]

/-- The cache that is left once a put of `k`, which has no live entry, has made room. -/
def roomFor (c : RecordCache) (now : Moment) (k : CacheKey) : RecordCache :=
  (c.vacate k).makeRoom now

/-- Without the entry of the first key of the queue `k :: rest`, which has to give way. -/
def displace (c : RecordCache) (k : CacheKey) (rest : List CacheKey) : RecordCache :=
  { c with
    entries := c.entries.erase k, recency := rest
    stats := { c.stats with evictionsCapacity := c.stats.evictionsCapacity + 1 } }

theorem roomFor_of_missing (h : c.entries.get? k = none) :
    c.roomFor now k = c.makeRoom now := by
  simp [roomFor, vacate, Keyed.contains, h]

theorem roomFor_of_entry (h : c.entries.get? k = some e) :
    c.roomFor now k = (c.dropExpired k).makeRoom now := by
  simp [roomFor, vacate, Keyed.contains, h]

theorem size_dropExpired (hk : c.entries.get? k = some e) :
    (c.dropExpired k).size + 1 = c.size := by
  have hentries : (c.dropExpired k).entries = c.entries.erase k := by
    simp [dropExpired, countExpired, without, recount, Keyed.erase, Keyed.filter]
  have hsize := c.entries.size_erase k
  rw [if_pos (Keyed.mem_keys_iff.2 ⟨e, hk⟩)] at hsize
  rw [size, hentries]
  exact hsize

theorem size_displace (hk : c.entries.get? k = some e) (rest : List CacheKey) :
    (c.displace k rest).size + 1 = c.size := by
  have hsize := c.entries.size_erase k
  rw [if_pos (Keyed.mem_keys_iff.2 ⟨e, hk⟩)] at hsize
  exact hsize

/-- All that making room can come to. -/
theorem Sound.roomFor_cases (h : c.Sound) (hon : 0 < c.settings.capacity)
    (hl : c.isLive now k = false) :
    (∃ e, c.entries.get? k = some e ∧ e.isExpired now ∧ c.roomFor now k = c.dropExpired k) ∨
    (c.entries.get? k = none ∧ c.size < c.settings.capacity ∧ c.roomFor now k = c) ∨
    (c.entries.get? k = none ∧ c.size = c.settings.capacity ∧ c.expiredKeys now ≠ [] ∧
      c.roomFor now k = (c.purge now).2) ∨
    (c.entries.get? k = none ∧ c.size = c.settings.capacity ∧ c.expiredKeys now = [] ∧
      ∃ victim rest, c.recency = victim :: rest ∧ c.roomFor now k = c.displace victim rest) := by
  have hle := h.size_le
  cases hk : c.entries.get? k with
  | some e =>
    have he : e.isExpired now := by simpa [isLive, hk] using hl
    have hsize := size_dropExpired hk
    have hroom : (c.dropExpired k).size < (c.dropExpired k).settings.capacity := by
      change (c.dropExpired k).size < c.settings.capacity
      omega
    exact .inl ⟨e, rfl, he, (roomFor_of_entry hk).trans (makeRoom_of_lt hroom)⟩
  | none =>
    rw [roomFor_of_missing hk]
    by_cases hlt : c.size < c.settings.capacity
    · exact .inr (.inl ⟨rfl, hlt, makeRoom_of_lt hlt⟩)
    have hfull : c.size = c.settings.capacity := by omega
    rw [makeRoom_of_full hlt]
    cases hx : c.expiredKeys now with
    | nil =>
      rw [purge_of_expiredKeys_eq_nil hx]
      rcases h.evict_cases hon with ⟨hlt', -⟩ | ⟨victim, rest, hq, -, he⟩
      · exact (hlt hlt').elim
      · exact .inr (.inr (.inr ⟨rfl, hfull, rfl, victim, rest, hq, he⟩))
    | cons x xs =>
      -- Once something has expired there is room without an eviction.
      have hsize := c.size_purge now
      rw [hx, List.length_cons] at hsize
      have hset : (c.purge now).2.settings = c.settings := settings_purge
      rcases h.purge.evict_cases (hset ▸ hon) with ⟨-, he⟩ | ⟨-, -, -, hfull', -⟩
      · exact .inr (.inr (.inl ⟨rfl, hfull, List.cons_ne_nil x xs, he⟩))
      · rw [hset] at hfull'
        omega

/-! ## Puts -/

theorem put_of_dead_cases (hon : c.settings.isEnabled) (hl : c.isLive now k = false) (r : Record) :
    (CacheEntry.expiry? now c.settings.effectiveTtl = none ∧
      c.put now k r = ⟨c.roomFor now k, true⟩) ∨
    ∃ e, CacheEntry.create? now k r c.settings.effectiveTtl = some e ∧
      c.put now k r = ⟨(c.roomFor now k).add k e, false⟩ := by
  rw [put_of_dead hon hl, ← settings_vacate (c := c) (k := k), ← CacheEntry.create?_eq_none_iff]
  exact putNew_cases (c.vacate k) now k r

/-- All that a put can come to. -/
theorem put_outcome_cases (c : RecordCache) (now : Moment) (k : CacheKey) (r : Record) :
    (c.settings.isEnabled = false ∧ c.put now k r = ⟨c, false⟩) ∨
    (∃ e, c.entries.get? k = some e ∧ e.isExpired now = false ∧
      c.put now k r = ⟨c.renew k (e.replaced r), false⟩) ∨
    (0 < c.settings.capacity ∧ c.isLive now k = false ∧
      c.put now k r = ⟨c.roomFor now k, true⟩) ∨
    (0 < c.settings.capacity ∧ c.isLive now k = false ∧
      ∃ e, CacheEntry.create? now k r c.settings.effectiveTtl = some e ∧
        c.put now k r = ⟨(c.roomFor now k).add k e, false⟩) := by
  rcases c.put_cases now k r with hoff | ⟨e, hk, hx, hp⟩ | ⟨hon, hl, -⟩
  · exact .inl hoff
  · exact .inr (.inl ⟨e, hk, hx, hp⟩)
  · have hcapacity : 0 < c.settings.capacity := by simpa [CacheSettings.isEnabled] using hon
    rcases put_of_dead_cases hon hl r with ⟨-, hp⟩ | ⟨e, hcreate, hp⟩
    · exact .inr (.inr (.inl ⟨hcapacity, hl, hp⟩))
    · exact .inr (.inr (.inr ⟨hcapacity, hl, e, hcreate, hp⟩))

end RecordCache

end KeyedRecords
