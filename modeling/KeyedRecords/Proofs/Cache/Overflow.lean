import KeyedRecords.Proofs.Cache.Counters
import KeyedRecords.Proofs.Cache.Eviction

/-!
A put that breaks off because the expiry of the new entry is past the last moment. By then it has
made room: its own key has no entry, others may have given way for a record that was not stored, and
all of that stays so. What was dropped was counted, but an entry that gave way because it was least
recently used is still in the counter of entries (`left_of_overflow`). Only where no room had to be
made is the cache as it was.
-/

namespace KeyedRecords

theorem eq_filter_of_sublist {α : Type} {xs ys : List α} {p : α → Bool} (h : xs.Sublist ys)
    (hn : ys.Nodup) (hp : ∀ a ∈ ys, a ∈ xs ↔ p a) : xs = ys.filter p := by
  have hxs : xs.filter p = xs := List.filter_eq_self.2 fun a ha => (hp a (h.subset ha)).1 ha
  have hsub : xs.Sublist (ys.filter p) := hxs ▸ h.filter p
  have hperm : xs.Perm (ys.filter p) := by
    refine (List.perm_ext_iff_of_nodup (hn.sublist h) (hn.filter p)).2 fun a => ?_
    rw [List.mem_filter]
    exact ⟨fun ha => ⟨h.subset ha, (hp a (h.subset ha)).1 ha⟩, fun ha => (hp a ha.1).2 ha.2⟩
  exact hsub.eq_of_length hperm.length_eq

namespace RecordCache

variable {c : RecordCache} {now : Moment} {k : CacheKey} {r : Record}

theorem put_of_overflow (h : (c.put now k r).overflow = true) :
    0 < c.settings.capacity ∧ c.isLive now k = false ∧
      (c.put now k r).cache = c.roomFor now k := by
  rcases c.put_outcome_cases now k r with ⟨-, hp⟩ | ⟨e, -, -, hp⟩ | ⟨hon, hl, hp⟩ |
    ⟨-, -, e, -, hp⟩ <;> rw [hp] at h ⊢
  · cases h
  · cases h
  · exact ⟨hon, hl, rfl⟩
  · cases h

theorem within_roomFor : (c.roomFor now k).Within c := within_makeRoom.trans within_vacate

theorem Sound.sound_roomFor (h : c.Sound) (hon : 0 < c.settings.capacity) :
    (c.roomFor now k).Sound := by
  have hset : (c.vacate k).settings = c.settings := settings_vacate
  exact (h.vacate.makeRoom (hset ▸ hon)).1

/-- The queue that is left is in the order that it had. -/
theorem Sound.recency_roomFor_eq (h : c.Sound) (hon : 0 < c.settings.capacity)
    (hl : c.isLive now k = false) :
    (c.roomFor now k).recency = c.recency.filter (c.roomFor now k).entries.contains := by
  have hsub : (c.roomFor now k).recency.Sublist c.recency :=
    (h.recency_roomFor hon hl).trans List.filter_sublist
  refine eq_filter_of_sublist hsub h.nodup fun k' _ => ?_
  rw [(h.sound_roomFor hon).mem_recency_iff, Keyed.contains, Option.isSome_iff_exists]

/-- Making room changes nothing where nothing is in its way. -/
theorem Sound.roomFor_eq_self_iff (h : c.Sound) (hon : 0 < c.settings.capacity)
    (hl : c.isLive now k = false) : c.roomFor now k = c ↔
      c.entries.get? k = none ∧ c.size < c.settings.capacity := by
  constructor
  · intro hself
    rcases h.roomFor_cases hon hl with ⟨e, hk, -, -⟩ | ⟨hk, hlt, -⟩ | ⟨-, -, hx, hr⟩ |
      ⟨-, -, -, victim, rest, -, hr⟩
    · have hgone : (c.roomFor now k).entries.get? k = none := get?_roomFor_self
      rw [hself, hk] at hgone
      cases hgone
    · exact ⟨hk, hlt⟩
    · have hsize := c.size_purge now
      have hpos := List.length_pos_iff.2 hx
      rw [← hr, hself] at hsize
      omega
    · have hcount : c.stats.evictionsCapacity = c.stats.evictionsCapacity + 1 :=
        congrArg (·.stats.evictionsCapacity) (hself.symm.trans hr)
      omega
  · rintro ⟨hk, hlt⟩
    exact (roomFor_of_missing hk).trans (makeRoom_of_lt hlt)

/-- The counter of entries does not see the eviction. -/
theorem Sound.entries_roomFor (h : c.Sound) (hon : 0 < c.settings.capacity)
    (hl : c.isLive now k = false) (hc : c.Counted) :
    (c.roomFor now k).stats.entries + c.stats.evictionsCapacity =
      (c.roomFor now k).size + (c.roomFor now k).stats.evictionsCapacity := by
  have hcounted : c.stats.entries = c.size := hc
  rcases h.roomFor_cases hon hl with ⟨e, -, -, hr⟩ | ⟨-, -, hr⟩ | ⟨-, -, -, hr⟩ |
    ⟨-, -, -, victim, rest, hq, hr⟩ <;> rw [hr]
  · rfl
  · rw [hcounted]
  · have hpurged : (c.purge now).2.stats.entries = (c.purge now).2.size := hc.purge
    rw [hpurged, evictionsCapacity_purge]
  · obtain ⟨e, he⟩ := h.mem_recency_iff.1 (hq ▸ List.mem_cons_self)
    have hsize := size_displace he rest
    change c.stats.entries + c.stats.evictionsCapacity =
      (c.displace victim rest).size + (c.stats.evictionsCapacity + 1)
    omega

end RecordCache

namespace CacheSession

open RecordCache

/-- What a put that broke off has left, after any run. The cache is as it was exactly if the key had
no entry and there was room for one. In any case the key has no entry, the entries that are left are
as they were and in the order in which they were, no lookup and no invalidation was counted, and
whatever is gone was counted as an eviction. The counter of entries, if it was right, is too great by
the entry that gave way to a record that was not stored. -/
theorem left_of_overflow (settings : CacheSettings) (start : Moment) (steps : List CacheStep)
    (k : CacheKey) (r : Record) :
    let s := (new settings start).run steps
    let c := s.cache
    let c' := (s.step (.put k r)).cache
    (c.put s.now k r).overflow = true →
      (c' = c ↔ c.entries.get? k = none ∧ c.size < settings.capacity) ∧
      c'.entries.get? k = none ∧ c'.Within c ∧
      c'.recency = c.recency.filter c'.entries.contains ∧
      c'.SameLookups c ∧ c'.stats.invalidations = c.stats.invalidations ∧
      c'.admitted = c.admitted ∧
      (s.broken = false → c'.stats.entries + c.stats.evictionsCapacity =
        c'.size + c'.stats.evictionsCapacity) := by
  intro s c c' hp
  have hs : s.Sound settings := (sound_new settings start).run steps
  have hsound : c.Sound := hs.sound
  obtain ⟨hon, hl, hput⟩ := put_of_overflow hp
  have hc' : c' = c.roomFor s.now k := hput
  rw [hc', ← hs.settings_eq]
  exact ⟨hsound.roomFor_eq_self_iff hon hl, get?_roomFor_self, within_roomFor,
    hsound.recency_roomFor_eq hon hl, sameLookups_roomFor, invalidations_roomFor,
    hsound.admitted_roomFor hon hl, fun hb => hsound.entries_roomFor hon hl (hs.counted hb)⟩

/-- A lifetime up to the last moment is over for a put one nanosecond later. The only entry is gone
by then, for nothing, and is still counted among the entries. -/
theorem left_of_overflow_evicted :
    let k (n : Int64) : CacheKey := ⟨"T", .long n⟩
    let r (n : Int64) : Record := ⟨⟨.empty⟩, Keyed.ofList [("id", .long n)]⟩
    let settings : CacheSettings := { capacity := 1, ttl := some ⟨Instant.lastMoment.toNat⟩ }
    let steps : List CacheStep := [.put (k 1) (r 1), .clock 1]
    let s := (new settings 0).run steps
    let c' := (s.step (.put (k 2) (r 2))).cache
    (s.cache.put s.now (k 2) (r 2)).overflow = true ∧ s.cache.size = 1 ∧ c' ≠ s.cache ∧
      c'.size = 0 ∧ c'.recency = [] ∧ c'.stats.evictionsCapacity = 1 ∧ c'.stats.entries = 1 := by
  intro k r settings steps
  dsimp only
  have hp : (((new settings 0).run steps).cache.put ((new settings 0).run steps).now
      (k 2) (r 2)).overflow = true := by decide
  have hb : ((new settings 0).run steps).broken = false := by decide
  have hbefore : ((new settings 0).run steps).cache.stats.evictionsCapacity = 0 := by decide
  have hsize : (((new settings 0).run steps).step (.put (k 2) (r 2))).cache.size = 0 := by decide
  have hevicted :
      (((new settings 0).run steps).step (.put (k 2) (r 2))).cache.stats.evictionsCapacity = 1 := by
    decide
  obtain ⟨hself, -, -, hqueue, -, -, -, hentries⟩ :=
    left_of_overflow settings 0 steps (k 2) (r 2) hp
  have hcount := hentries hb
  refine ⟨hp, by decide, fun h => ?_, hsize, hqueue.trans (by decide), hevicted, ?_⟩
  · exact absurd (hself.1 h).2 (by decide)
  · omega

/-- Breaking off does not leave everything as it was. -/
theorem not_restored_of_overflow :
    ¬∀ (settings : CacheSettings) (start : Moment) (steps : List CacheStep) (k : CacheKey)
      (r : Record),
      let s := (new settings start).run steps
      (s.cache.put s.now k r).overflow = true → (s.cache.put s.now k r).cache = s.cache := by
  intro h
  let k (n : Int64) : CacheKey := ⟨"T", .long n⟩
  let r (n : Int64) : Record := ⟨⟨.empty⟩, Keyed.ofList [("id", .long n)]⟩
  have hself := h { capacity := 1, ttl := some ⟨Instant.lastMoment.toNat⟩ } 0
    [.put (k 1) (r 1), .clock 1] (k 2) (r 2) (by decide)
  exact absurd (congrArg size hself) (by decide)

end CacheSession
end KeyedRecords
