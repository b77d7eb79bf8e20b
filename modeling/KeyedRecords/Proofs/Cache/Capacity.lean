import KeyedRecords.Proofs.Cache.Soundness

/-!
Two record caches that are asked the same, one of which may hold more records than the other. If
neither has a time to live, the larger one holds all that the smaller one holds.

Their queues part, for a get may find a record in the larger one only, and its key is then the most
recent there. What stays is that the queue of the smaller one is in the other queue in the same
order, and that the smaller one never has more room left.
-/

namespace KeyedRecords

namespace RecordCache

variable {c c' d d' : RecordCache} {now : Moment} {k : CacheKey} {r : Record} {e e' : CacheEntry}

/-! ## Caches without a time to live -/

/-- Nothing in the cache ever expires. -/
structure Lasting (c : RecordCache) : Prop where
  sound : c.Sound
  ttl_eq : c.settings.effectiveTtl = none
  expiry_eq : ∀ k e, c.entries.get? k = some e → e.expiresAt = none

theorem Sound.size_evict (h : c.Sound) (hon : 0 < c.settings.capacity) :
    c.evict.size = min c.size (c.settings.capacity - 1) := by
  have hsize := h.size_eq
  have hevict := (h.evict hon).1.size_eq
  rcases h.evict_cases hon with ⟨hlt, he⟩ | ⟨k, rest, hq, hfull, he⟩
  · rw [he]
    omega
  · have hrest : c.evict.recency = rest := by rw [he]
    rw [hq, List.length_cons] at hsize
    rw [hrest] at hevict
    omega

theorem Sound.recency_remove (h : c.Sound) :
    (c.remove k).2.recency = c.recency.filter (· ≠ k) := by
  cases hk : c.entries.get? k with
  | none =>
    have hmem : k ∉ c.recency := by rwa [h.mem_recency, ← Keyed.get?_eq_none_iff]
    simp only [RecordCache.remove, hk]
    exact (filter_ne_eq_self hmem).symm
  | some e =>
    simp only [RecordCache.remove, hk]
    simp [countInvalid, RecordCache.without, recount]

theorem Sound.size_remove (h : c.Sound) :
    (c.remove k).2.size + c.recency.count k = c.size := by
  have hsplit := c.recency.length_eq_countP_add_countP fun k' => decide (k' ≠ k)
  have hcount : c.recency.countP (fun k' => decide ¬decide (k' ≠ k) = true) =
      c.recency.count k := by
    refine List.countP_congr fun k' _ => ?_
    simp
  rw [h.remove.size_eq, h.recency_remove, h.size_eq, ← List.countP_eq_length_filter]
  omega

theorem Sound.within_evict (h : c.Sound) (hon : 0 < c.settings.capacity) : c.evict.Within c := by
  rcases h.evict_cases hon with ⟨-, he⟩ | ⟨k, rest, -, -, he⟩ <;> rw [he]
  · exact .refl c
  · intro k' e' hk'
    simp only [Keyed.get?_erase] at hk'
    split at hk'
    · cases hk'
    · exact hk'

namespace Lasting

theorem new {settings : CacheSettings} (h : settings.effectiveTtl = none) :
    (RecordCache.new settings).Lasting :=
  ⟨.new settings, h, fun _ _ he => nomatch he⟩

theorem of_within (h : c.Lasting) (hs : d.Sound) (hset : d.settings = c.settings)
    (hw : d.Within c) : d.Lasting :=
  ⟨hs, hset ▸ h.ttl_eq, fun k e he => h.expiry_eq k e (hw k e he)⟩

theorem isExpired_eq (h : c.Lasting) (hk : c.entries.get? k = some e) :
    e.isExpired now = false := by
  simp [CacheEntry.isExpired, h.expiry_eq k e hk]

theorem get?_eq_none_iff (h : c.Lasting) : c.entries.get? k = none ↔ k ∉ c.recency := by
  rw [h.sound.mem_recency, Keyed.get?_eq_none_iff]

theorem size_pos (h : c.Lasting) (hk : k ∈ c.recency) : 0 < c.size :=
  h.sound.size_eq ▸ List.length_pos_of_mem hk

theorem isEnabled (h : c.Lasting) (hk : k ∈ c.recency) : c.settings.isEnabled := by
  have hpos := h.size_pos hk
  have hle := h.sound.size_le
  simp only [CacheSettings.isEnabled, decide_eq_true_eq]
  omega

theorem purge_eq (h : c.Lasting) : c.purge now = (0, c) := by
  have hnone : c.expiredKeys now = [] := by
    refine List.eq_nil_iff_forall_not_mem.2 fun k hk => ?_
    have hexp := List.contains_iff_mem.2 hk
    rw [contains_expiredKeys, Option.any_eq_true] at hexp
    obtain ⟨e, he, hx⟩ := hexp
    rw [h.isExpired_eq he] at hx
    cases hx
  simp only [purge, hnone]

/-- Without expired entries room is made by eviction alone. -/
theorem makeRoom_eq (h : c.Lasting) (hon : 0 < c.settings.capacity) : c.makeRoom now = c.evict := by
  unfold RecordCache.makeRoom
  split
  · next hlt =>
    rcases h.sound.evict_cases hon with ⟨-, he⟩ | ⟨k, rest, -, hfull, -⟩
    · exact he.symm
    · omega
  · rw [h.purge_eq]

theorem get_cases (h : c.Lasting) (now : Moment) (k : CacheKey) :
    (k ∉ c.recency ∧ c.get now k = (none, c.countMiss)) ∨
    ∃ e, k ∈ c.recency ∧ c.entries.get? k = some e ∧
      c.get now k = (some e.record, (c.renew k (e.accessed now)).countHit) := by
  by_cases hk : k ∈ c.recency
  · obtain ⟨e, he⟩ := h.sound.mem_recency_iff.1 hk
    exact .inr ⟨e, hk, he, get_of_live (h.isEnabled hk) he (h.isExpired_eq he)⟩
  · exact .inl ⟨hk, get_of_missing (h.get?_eq_none_iff.2 hk)⟩

theorem put_cases (h : c.Lasting) (now : Moment) (k : CacheKey) (r : Record) :
    (c.settings.capacity = 0 ∧ c.put now k r = ⟨c, false⟩) ∨
    (∃ e, k ∈ c.recency ∧ c.entries.get? k = some e ∧
      c.put now k r = ⟨c.renew k (e.replaced r), false⟩) ∨
    (0 < c.settings.capacity ∧ k ∉ c.recency ∧
      ∃ e, CacheEntry.create? now k r none = some e ∧
        c.put now k r = ⟨c.evict.add k e, false⟩) := by
  by_cases hk : k ∈ c.recency
  · obtain ⟨e, he⟩ := h.sound.mem_recency_iff.1 hk
    exact .inr (.inl ⟨e, hk, he, put_of_live (h.isEnabled hk) he (h.isExpired_eq he)⟩)
  have hnone := h.get?_eq_none_iff.2 hk
  rcases Nat.eq_zero_or_pos c.settings.capacity with hoff | hon
  · exact .inl ⟨hoff, put_of_off (by simp [CacheSettings.isEnabled, hoff])⟩
  refine .inr (.inr ⟨hon, hk, ?_⟩)
  have hen : c.settings.isEnabled := by simpa [CacheSettings.isEnabled] using hon
  have hput : c.put now k r = c.putNew now k r := by simp [put, hen, hnone]
  rcases c.putNew_cases now k r with ⟨he, -⟩ | ⟨e, he, hn⟩
  · rw [h.ttl_eq] at he
    cases he
  · rw [h.ttl_eq] at he
    exact ⟨e, he, by rw [hput, hn, h.makeRoom_eq hon]⟩

theorem size_put (h : c.Lasting) : (c.put now k r).cache.size =
    if k ∈ c.recency then c.size else min (c.size + 1) c.settings.capacity := by
  rcases h.put_cases now k r with ⟨hoff, hp⟩ | ⟨e, hk, he, hp⟩ | ⟨hon, hk, e, -, hp⟩ <;> rw [hp]
  · have hle := h.sound.size_le
    split
    · rfl
    · dsimp only
      omega
  · rw [if_pos hk]
    exact size_renew he
  · have hnone := (h.sound.within_evict hon).get?_eq_none (h.get?_eq_none_iff.2 hk)
    rw [if_neg hk, size_add hnone, h.sound.size_evict hon]
    omega

theorem get (h : c.Lasting) : (c.get now k).2.Lasting := by
  refine ⟨h.sound.get, by rw [settings_get, h.ttl_eq], fun k' e' he' => ?_⟩
  obtain ⟨e, he, rfl | rfl⟩ := entry_of_get he'
  · exact h.expiry_eq k' e' he
  · exact h.expiry_eq k' e he

theorem put (h : c.Lasting) : (c.put now k r).cache.Lasting := by
  refine ⟨h.sound.put, by rw [settings_put, h.ttl_eq], fun k' e' he' => ?_⟩
  rcases entry_of_put he' with he | ⟨rfl, e, he, -, rfl⟩ | ⟨rfl, -, he⟩
  · exact h.expiry_eq k' e' he
  · exact h.expiry_eq k' e he
  · rw [h.ttl_eq] at he
    obtain ⟨-, -, hexp⟩ := CacheEntry.of_create? he
    exact (Option.some.inj hexp).symm

theorem remove (h : c.Lasting) : (c.remove k).2.Lasting :=
  h.of_within h.sound.remove settings_remove within_remove

theorem clear (h : c.Lasting) : c.clear.2.Lasting := h.of_within .clear rfl within_clear

end Lasting

/-! ## A cache within a larger one -/

/-- The records of `c` are in `c'`, and their keys in the same order. -/
structure HeldBy (c c' : RecordCache) : Prop where
  recency : c.recency.Sublist c'.recency
  record : ∀ k e, c.entries.get? k = some e →
    ∃ e', c'.entries.get? k = some e' ∧ e'.record = e.record

namespace HeldBy

/-- Entries may be dropped from both, as long as the keys left are in one order. -/
theorem of_within (h : c.HeldBy c') (hd : d.Sound) (hd' : d'.Sound) (hw : d.Within c)
    (hw' : d'.Within c') (hr : d.recency.Sublist d'.recency) : d.HeldBy d' where
  recency := hr
  record k e he := by
    obtain ⟨e', he', hrec⟩ := h.record k e (hw k e he)
    have hmem : k ∈ d'.recency := hr.subset (hd.mem_recency_iff.2 ⟨e, he⟩)
    obtain ⟨e₁, he₁⟩ := hd'.mem_recency_iff.1 hmem
    cases he'.symm.trans (hw' k e₁ he₁)
    exact ⟨_, he₁, hrec⟩

/-- Both get an entry for `k` with one record. -/
theorem set (h : c.HeldBy c')
    (hd : ∀ k', d.entries.get? k' = if k = k' then some e else c.entries.get? k')
    (hd' : ∀ k', d'.entries.get? k' = if k = k' then some e' else c'.entries.get? k')
    (hrec : e'.record = e.record) (hr : d.recency.Sublist d'.recency) : d.HeldBy d' where
  recency := hr
  record k' e₁ he₁ := by
    rw [hd] at he₁
    rw [hd']
    split at he₁
    · cases he₁
      exact ⟨e', by simp [*], hrec⟩
    · next hne =>
      rw [if_neg hne]
      exact h.record k' e₁ he₁

theorem renew (h : c.HeldBy c') (hrec : e'.record = e.record) :
    (c.renew k e).HeldBy (c'.renew k e') :=
  h.set (fun _ => get?_renew) (fun _ => get?_renew) hrec ((h.recency.filter _).append (.refl _))

theorem add (h : c.HeldBy c') (hrec : e'.record = e.record) : (c.add k e).HeldBy (c'.add k e') :=
  h.set (fun _ => get?_add) (fun _ => get?_add) hrec (h.recency.append (.refl _))

theorem recency_filter (h : c.HeldBy c') (hk : k ∉ c.recency) :
    c.recency.Sublist (c'.recency.filter (· ≠ k)) := by
  have hsub : (c.recency.filter (· ≠ k)).Sublist (c'.recency.filter (· ≠ k)) := h.recency.filter _
  rwa [filter_ne_eq_self hk] at hsub

/-- What is new in the smaller cache may be there already in the larger one. -/
theorem add_renew (h : c.HeldBy c') (hk : k ∉ c.recency) (hrec : e'.record = e.record) :
    (c.add k e).HeldBy (c'.renew k e') :=
  h.set (fun _ => get?_add) (fun _ => get?_renew) hrec ((h.recency_filter hk).append (.refl _))

/-- A record that is used in the larger cache only. -/
theorem renew_right (h : c.HeldBy c') (hc : c.Sound) (hk : k ∉ c.recency) :
    c.HeldBy (c'.renew k e') where
  recency := (h.recency_filter hk).trans (List.sublist_append_left _ _)
  record k' e₁ he₁ := by
    have hne : ¬k = k' := by
      rintro rfl
      exact hk (hc.mem_recency_iff.2 ⟨e₁, he₁⟩)
    rw [get?_renew, if_neg hne]
    exact h.record k' e₁ he₁

/-- The smaller cache may drop its least recently used entry on its own. -/
theorem evict_left (h : c.HeldBy c') (hc : c.Sound) (hc' : c'.Sound)
    (hon : 0 < c.settings.capacity) : c.evict.HeldBy c' := by
  refine h.of_within (hc.evict hon).1 hc' (hc.within_evict hon) (.refl c') ?_
  rcases hc.evict_cases hon with ⟨-, he⟩ | ⟨k, rest, hq, -, he⟩ <;> rw [he]
  · exact h.recency
  · have hrest : rest.Sublist c.recency := hq ▸ List.sublist_cons_self k rest
    exact hrest.trans h.recency

/-- Where the larger cache is full the smaller one is full as well, and each drops the first of its
queue. -/
theorem evict (h : c.HeldBy c') (hc : c.Sound) (hc' : c'.Sound) (hon : 0 < c.settings.capacity)
    (hon' : 0 < c'.settings.capacity)
    (hroom : c.settings.capacity + c'.size ≤ c'.settings.capacity + c.size) :
    c.evict.HeldBy c'.evict := by
  rcases hc'.evict_cases hon' with ⟨-, he'⟩ | ⟨k', rest', hq', hfull', he'⟩
  · rw [he']
    exact h.evict_left hc hc' hon
  refine h.of_within (hc.evict hon).1 (hc'.evict hon').1 (hc.within_evict hon)
    (hc'.within_evict hon') ?_
  rcases hc.evict_cases hon with ⟨hlt, -⟩ | ⟨k, rest, hq, -, he⟩
  · omega
  have htail := h.recency.tail
  rw [hq, hq'] at htail
  rw [he, he']
  exact htail

end HeldBy

/-! ## The same request to both -/

/-- `c` may hold fewer records than `c'`, holds none that is not in `c'`, and has no more room
left. -/
structure Trails (c c' : RecordCache) : Prop where
  lasting : c.Lasting
  lasting' : c'.Lasting
  held : c.HeldBy c'
  room_le : c.settings.capacity + c'.size ≤ c'.settings.capacity + c.size

namespace Trails

theorem new {settings settings' : CacheSettings} (hle : settings.capacity ≤ settings'.capacity)
    (httl : settings.effectiveTtl = none) (httl' : settings'.effectiveTtl = none) :
    (RecordCache.new settings).Trails (RecordCache.new settings') where
  lasting := .new httl
  lasting' := .new httl'
  held := ⟨.refl [], fun _ _ he => nomatch he⟩
  room_le := hle

theorem size_le (h : c.Trails c') : c.size ≤ c'.size := by
  rw [h.lasting.sound.size_eq, h.lasting'.sound.size_eq]
  exact h.held.recency.length_le

theorem capacity_le (h : c.Trails c') : c.settings.capacity ≤ c'.settings.capacity := by
  have hroom := h.room_le
  have hsize := h.size_le
  omega

/-- Neither finds a record, or only the larger one does, or both find the same. -/
theorem get_cases (h : c.Trails c') (now : Moment) (k : CacheKey) :
    (c.get now k = (none, c.countMiss) ∧ c'.get now k = (none, c'.countMiss)) ∨
    (∃ e', k ∉ c.recency ∧ c'.entries.get? k = some e' ∧ c.get now k = (none, c.countMiss) ∧
      c'.get now k = (some e'.record, (c'.renew k (e'.accessed now)).countHit)) ∨
    ∃ e e', c.entries.get? k = some e ∧ c'.entries.get? k = some e' ∧ e'.record = e.record ∧
      c.get now k = (some e.record, (c.renew k (e.accessed now)).countHit) ∧
      c'.get now k = (some e'.record, (c'.renew k (e'.accessed now)).countHit) := by
  rcases h.lasting.get_cases now k with ⟨hk, hg⟩ | ⟨e, hk, he, hg⟩
  · rcases h.lasting'.get_cases now k with ⟨-, hg'⟩ | ⟨e', -, he', hg'⟩
    · exact .inl ⟨hg, hg'⟩
    · exact .inr (.inl ⟨e', hk, he', hg, hg'⟩)
  · obtain ⟨e', he', hrec⟩ := h.held.record k e he
    rcases h.lasting'.get_cases now k with ⟨hk', -⟩ | ⟨e₁, -, he₁, hg'⟩
    · exact (hk' (h.held.recency.subset hk)).elim
    · cases he'.symm.trans he₁
      exact .inr (.inr ⟨e, e', he, he', hrec, hg, hg'⟩)

theorem hit (h : c.Trails c') (hr : (c.get now k).1 = some r) : (c'.get now k).1 = some r := by
  rcases h.get_cases now k with ⟨hg, -⟩ | ⟨e', -, -, hg, -⟩ | ⟨e, e', -, -, hrec, hg, hg'⟩
  · simp [hg] at hr
  · simp [hg] at hr
  · rw [hg] at hr
    rw [hg', hrec]
    exact hr

theorem get (h : c.Trails c') : (c.get now k).2.Trails (c'.get now k).2 := by
  have hl : (c.get now k).2.Lasting := h.lasting.get
  have hl' : (c'.get now k).2.Lasting := h.lasting'.get
  rcases h.get_cases now k with ⟨hg, hg'⟩ | ⟨e', hk, he', hg, hg'⟩ |
    ⟨e, e', he, he', hrec, hg, hg'⟩ <;> rw [hg] at hl ⊢ <;> rw [hg'] at hl' ⊢
  · exact ⟨hl, hl', ⟨h.held.recency, h.held.record⟩, h.room_le⟩
  · have hheld : c.HeldBy (c'.renew k (e'.accessed now)) := h.held.renew_right h.lasting.sound hk
    refine ⟨hl, hl', ⟨hheld.recency, hheld.record⟩, ?_⟩
    have hsize' : (c'.renew k (e'.accessed now)).size = c'.size := size_renew he'
    exact hsize' ▸ h.room_le
  · have hheld : (c.renew k (e.accessed now)).HeldBy (c'.renew k (e'.accessed now)) :=
      h.held.renew hrec
    refine ⟨hl, hl', ⟨hheld.recency, hheld.record⟩, ?_⟩
    have hsize : (c.renew k (e.accessed now)).size = c.size := size_renew he
    have hsize' : (c'.renew k (e'.accessed now)).size = c'.size := size_renew he'
    exact hsize ▸ hsize' ▸ h.room_le

/-- A full cache gives up its oldest entry for the new one; the larger cache may have had it
before. -/
theorem held_put (h : c.Trails c') : (c.put now k r).cache.HeldBy (c'.put now k r).cache := by
  have hs := h.lasting.sound
  have hs' := h.lasting'.sound
  have hcap := h.capacity_le
  rcases h.lasting.put_cases now k r with ⟨hoff, hp⟩ | ⟨e, hk, he, hp⟩ | ⟨hon, hk, e, he, hp⟩
  · -- Nothing is kept in the smaller cache.
    have hnil : c.recency = [] := by
      have hle := hs.size_le
      rw [hs.size_eq, hoff] at hle
      exact List.eq_nil_of_length_eq_zero (Nat.le_zero.1 hle)
    rw [hp]
    refine ⟨by simp [hnil], fun k' e' he' => ?_⟩
    have hmem : k' ∈ c.recency := hs.mem_recency_iff.2 ⟨e', he'⟩
    simp [hnil] at hmem
  · obtain ⟨e', he', hrec⟩ := h.held.record k e he
    have hk' : k ∈ c'.recency := h.held.recency.subset hk
    rcases h.lasting'.put_cases now k r with ⟨hoff', -⟩ | ⟨e₁, -, -, hp'⟩ | ⟨-, hn', -⟩
    · have hle := hs'.size_le
      have hpos := h.lasting'.size_pos hk'
      omega
    · rw [hp, hp']
      exact h.held.renew rfl
    · exact (hn' hk').elim
  · have hout : k ∉ c.evict.recency := fun hm => by
      obtain ⟨e₁, he₁⟩ := (hs.evict hon).1.mem_recency_iff.1 hm
      exact hk (hs.mem_recency_iff.2 ⟨e₁, hs.within_evict hon k e₁ he₁⟩)
    obtain ⟨-, hrec, -⟩ := CacheEntry.of_create? he
    rcases h.lasting'.put_cases now k r with ⟨hoff', -⟩ | ⟨e', -, -, hp'⟩ |
      ⟨hon', -, e', he', hp'⟩
    · omega
    · rw [hp, hp']
      exact (h.held.evict_left hs hs' hon).add_renew hout hrec.symm
    · obtain ⟨-, hrec', -⟩ := CacheEntry.of_create? he'
      rw [hp, hp']
      exact (h.held.evict hs hs' hon hon' h.room_le).add (hrec'.trans hrec.symm)

theorem put (h : c.Trails c') : (c.put now k r).cache.Trails (c'.put now k r).cache := by
  refine ⟨h.lasting.put, h.lasting'.put, h.held_put, ?_⟩
  have hroom := h.room_le
  have hle := h.lasting.sound.size_le
  have hle' := h.lasting'.sound.size_le
  rw [settings_put, settings_put, h.lasting.size_put, h.lasting'.size_put]
  by_cases hk : k ∈ c.recency
  · rwa [if_pos hk, if_pos (h.held.recency.subset hk)]
  · rw [if_neg hk]
    split <;> omega

/-- A removal opens a gap in both, or in the larger cache only. -/
theorem remove (h : c.Trails c') : (c.remove k).2.Trails (c'.remove k).2 := by
  have hs := h.lasting.sound
  have hs' := h.lasting'.sound
  refine ⟨h.lasting.remove, h.lasting'.remove,
    h.held.of_within hs.remove hs'.remove within_remove within_remove ?_, ?_⟩
  · rw [hs.recency_remove, hs'.recency_remove]
    exact h.held.recency.filter _
  · have hroom := h.room_le
    have hsize := hs.size_remove (k := k)
    have hsize' := hs'.size_remove (k := k)
    have hcount : c.recency.count k ≤ c'.recency.count k := h.held.recency.count_le k
    rw [settings_remove, settings_remove]
    omega

theorem clear (h : c.Trails c') : c.clear.2.Trails c'.clear.2 where
  lasting := h.lasting.clear
  lasting' := h.lasting'.clear
  held := ⟨.refl [], fun _ _ he => nomatch he⟩
  room_le := h.capacity_le

theorem purge (h : c.Trails c') : (c.purge now).2.Trails (c'.purge now).2 := by
  rw [h.lasting.purge_eq, h.lasting'.purge_eq]
  exact h

end Trails

end RecordCache

namespace CacheSession

variable {s s' : CacheSession}

theorem trails_step (h : s.cache.Trails s'.cache) (hnow : s.now = s'.now) (x : CacheStep) :
    (s.step x).cache.Trails (s'.step x).cache ∧ (s.step x).now = (s'.step x).now := by
  obtain ⟨c, now, broken⟩ := s
  obtain ⟨c', now', broken'⟩ := s'
  obtain rfl : now = now' := hnow
  cases x with
  | get k => exact ⟨h.get, rfl⟩
  | put k r => exact ⟨h.put, rfl⟩
  | remove k => exact ⟨h.remove, rfl⟩
  | clear => exact ⟨h.clear, rfl⟩
  | purge => exact ⟨h.purge, rfl⟩
  | clock now => exact ⟨h, rfl⟩

theorem trails_run (h : s.cache.Trails s'.cache) (hnow : s.now = s'.now) (steps : List CacheStep) :
    (s.run steps).cache.Trails (s'.run steps).cache ∧ (s.run steps).now = (s'.run steps).now := by
  induction steps generalizing s s' with
  | nil => exact ⟨h, hnow⟩
  | cons x rest ih =>
    obtain ⟨hx, hnowx⟩ := trails_step h hnow x
    exact ih hx hnowx

/-- Of two caches without a time to live that were asked the same from the beginning, the larger
one holds the records of the smaller one, and finds what the smaller one finds. -/
theorem held_of_capacity_le {settings settings' : CacheSettings}
    (hle : settings.capacity ≤ settings'.capacity) (httl : settings.effectiveTtl = none)
    (httl' : settings'.effectiveTtl = none) (now : Moment) (steps : List CacheStep) :
    let s := (new settings now).run steps
    let s' := (new settings' now).run steps
    (∀ k e, s.cache.entries.get? k = some e →
      ∃ e', s'.cache.entries.get? k = some e' ∧ e'.record = e.record) ∧
    ∀ k r, (s.cache.get s.now k).1 = some r → (s'.cache.get s'.now k).1 = some r := by
  intro s s'
  have hnew : (new settings now).cache.Trails (new settings' now).cache := .new hle httl httl'
  obtain ⟨h, hnow⟩ : s.cache.Trails s'.cache ∧ s.now = s'.now := trails_run hnew rfl steps
  exact ⟨h.held.record, fun k r hr => hnow ▸ h.hit hr⟩

/-- The first of three keys is read when it is left in the larger cache only, so that the queues
part, and then a removal leaves gaps. -/
theorem held_of_capacity_le_parted :
    let k (n : Int64) : CacheKey := ⟨"T", .long n⟩
    let r (n : Int64) : Record := ⟨⟨.empty⟩, Keyed.ofList [("id", .long n)]⟩
    let small : CacheSettings := { capacity := 2 }
    let large : CacheSettings := { capacity := 3, ttl := some ⟨0⟩ }
    let steps : List CacheStep := [.put (k 1) (r 1), .put (k 2) (r 2), .put (k 3) (r 3), .get (k 1),
      .remove (k 3), .put (k 4) (r 4), .put (k 5) (r 5)]
    let s := (new small 0).run steps
    let s' := (new large 0).run steps
    small.capacity ≤ large.capacity ∧ small.effectiveTtl = none ∧ large.effectiveTtl = none ∧
      s.cache.recency = [k 4, k 5] ∧ s'.cache.recency = [k 1, k 4, k 5] ∧
      (s'.cache.get s'.now (k 4)).1 = some (r 4) := by
  intro k r small large steps s s'
  have hle : small.capacity ≤ large.capacity := by decide
  have httl : small.effectiveTtl = none := rfl
  have httl' : large.effectiveTtl = none := rfl
  refine ⟨hle, httl, httl', by decide, by decide, ?_⟩
  exact (held_of_capacity_le hle httl httl' 0 steps).2 (k 4) (r 4) (by decide)

end CacheSession
end KeyedRecords
