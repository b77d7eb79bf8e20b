import KeyedRecords.Proofs.Cache.Room

/-!
What a put drops. A put of a key that has a live entry drops nothing. One that starts a lifetime
drops no other entry while there is room. In a full cache it drops the expired entries, and if there
are none the one that was used least recently (`dropped_by_put`).

Which one that is can be told from the run alone: a key is used by its puts and by those of its gets
that find it. The queue of a cache is in the order of the latest uses (`inOrder_run`).
-/

namespace KeyedRecords

/-! ## What a put leaves -/

namespace RecordCache

variable {c : RecordCache} {now : Moment} {k k' : CacheKey} {r : Record} {e : CacheEntry}

/-- The keys besides `k` that have an entry. -/
def others (c : RecordCache) (k : CacheKey) : List CacheKey := c.entries.keys.filter (· ≠ k)

theorem mem_others_iff : k' ∈ c.others k ↔ k' ≠ k ∧ ∃ e, c.entries.get? k' = some e := by
  simp [others, Keyed.mem_keys_iff, and_comm]

theorem length_others :
    (c.others k).length + (if k ∈ c.entries.keys then 1 else 0) = c.size := by
  rw [size, ← c.entries.size_erase k, Keyed.size_eq_length_keys, Keyed.keys_erase, others]

theorem mem_expiredKeys_iff_of_entry (hk : c.entries.get? k = some e) :
    k ∈ c.expiredKeys now ↔ c.isLive now k = false := by
  simp [mem_expiredKeys, isLive, hk]

theorem get?_put_of_live (h : c.isLive now k = true) (hon : c.settings.isEnabled) :
    ∃ e, c.entries.get? k = some e ∧ ∀ k', (c.put now k r).cache.entries.get? k' =
      if k = k' then some (e.replaced r) else c.entries.get? k' := by
  obtain ⟨e, hk, he⟩ := isLive_iff.1 h
  refine ⟨e, hk, fun k' => ?_⟩
  rw [put_of_live hon hk he]
  exact get?_renew

/-- A put that starts a lifetime stores its record, unless it breaks off. -/
theorem record_put_of_dead (hon : c.settings.isEnabled) (hl : c.isLive now k = false)
    (hp : (c.put now k r).overflow = false) :
    ∃ e, (c.put now k r).cache.entries.get? k = some e ∧ e.record = r := by
  rcases put_of_dead_cases hon hl r with ⟨-, h⟩ | ⟨e, hcreate, h⟩ <;> rw [h] at hp ⊢
  · cases hp
  · obtain ⟨-, hrecord, -⟩ := CacheEntry.of_create? hcreate
    exact ⟨e, get?_add.trans (if_pos rfl), hrecord⟩

/-- The other entries are those that are left when room has been made. -/
theorem get?_put_of_dead (hon : c.settings.isEnabled) (hl : c.isLive now k = false)
    (hne : k' ≠ k) : (c.put now k r).cache.entries.get? k' =
      (c.roomFor now k).entries.get? k' := by
  rcases put_of_dead_cases hon hl r with ⟨-, hp⟩ | ⟨e, -, hp⟩ <;> rw [hp]
  rw [get?_add, if_neg (Ne.symm hne)]

/-- A put that starts a lifetime drops no other entry, or the expired ones, or the first of the
queue. -/
theorem Sound.get?_roomFor (h : c.Sound) (hon : 0 < c.settings.capacity)
    (hl : c.isLive now k = false) :
    ((c.others k).length < c.settings.capacity ∧
      ∀ k', k' ≠ k → (c.roomFor now k).entries.get? k' = c.entries.get? k') ∨
    (c.settings.capacity ≤ (c.others k).length ∧ (∃ k' ∈ c.others k, c.isLive now k' = false) ∧
      ∀ k', k' ≠ k → (c.roomFor now k).entries.get? k' =
        if c.isLive now k' then c.entries.get? k' else none) ∨
    (c.settings.capacity ≤ (c.others k).length ∧ (∀ k' ∈ c.others k, c.isLive now k') ∧
      ∃ victim rest, c.recency = victim :: rest ∧ victim ∈ c.others k ∧
        ∀ k', k' ≠ k → (c.roomFor now k).entries.get? k' =
          if k' = victim then none else c.entries.get? k') := by
  have hlen := c.length_others (k := k)
  have hle := h.size_le
  have hmissing (hk : c.entries.get? k = none) : (c.others k).length = c.size := by
    rw [if_neg (Keyed.get?_eq_none_iff.1 hk)] at hlen
    exact hlen
  rcases h.roomFor_cases hon hl with ⟨e, hk, -, hr⟩ | ⟨hk, hlt, hr⟩ | ⟨hk, hfull, hx, hr⟩ |
    ⟨hk, hfull, hx, victim, rest, hq, hr⟩
  · rw [if_pos (Keyed.mem_keys_iff.2 ⟨e, hk⟩)] at hlen
    refine .inl ⟨by omega, fun k' hne => ?_⟩
    rw [hr, get?_dropExpired, if_neg hne]
  · refine .inl ⟨hmissing hk ▸ hlt, fun k' hne => ?_⟩
    rw [hr]
  · have hfull' : c.settings.capacity ≤ (c.others k).length :=
      Nat.le_of_eq (hfull.symm.trans (hmissing hk).symm)
    refine .inr (.inl ⟨hfull', ?_, fun k' hne => ?_⟩)
    · obtain ⟨x, hmem⟩ := List.exists_mem_of_ne_nil _ hx
      obtain ⟨e, hxe, -⟩ := mem_expiredKeys.1 hmem
      exact ⟨x, mem_others_iff.2 ⟨ne_of_missing hk hxe, e, hxe⟩,
        (mem_expiredKeys_iff_of_entry hxe).1 hmem⟩
    · rw [hr, get?_purge]
      cases hk' : c.entries.get? k' with
      | none => simp
      | some e => cases he : e.isExpired now <;> simp [isLive, hk', he, Option.filter]
  · have hfull' : c.settings.capacity ≤ (c.others k).length :=
      Nat.le_of_eq (hfull.symm.trans (hmissing hk).symm)
    refine .inr (.inr ⟨hfull', fun k' hk' => ?_, victim, rest, hq, ?_, fun k' hne => ?_⟩)
    · obtain ⟨-, e, he⟩ := mem_others_iff.1 hk'
      exact isLive_iff.2 ⟨e, he, isExpired_of_expiredKeys_eq_nil hx he⟩
    · obtain ⟨e, he⟩ := h.mem_recency_iff.1 (hq ▸ List.mem_cons_self)
      exact mem_others_iff.2 ⟨ne_of_missing hk he, e, he⟩
    · rw [hr]
      simp [displace, eq_comm]

/-! ## The queue after a request -/

theorem recency_dropExpired : (c.dropExpired k).recency = c.recency.filter (· ≠ k) := by
  simp [dropExpired, countExpired, without, recount]

theorem recency_purge : (c.purge now).2.recency.Sublist c.recency := by
  rw [purge_fields.2]
  exact List.filter_sublist

theorem recency_get_of_some (h : (c.get now k).1 = some r) :
    (c.get now k).2.recency = c.recency.filter (· ≠ k) ++ [k] := by
  rcases c.get_cases now k with hg | ⟨e, -, -, -, hg⟩ | ⟨e, -, -, -, hg⟩ <;> rw [hg] at h ⊢
  · cases h
  · cases h
  · rfl

theorem recency_get_of_none (h : (c.get now k).1 = none) :
    (c.get now k).2.recency.Sublist c.recency := by
  rcases c.get_cases now k with hg | ⟨e, -, -, -, hg⟩ | ⟨e, -, -, -, hg⟩ <;> rw [hg] at h ⊢
  · exact .refl _
  · have hr : (c.dropExpired k).countMiss.recency = c.recency.filter (· ≠ k) := recency_dropExpired
    rw [hr]
    exact List.filter_sublist
  · cases h

theorem Sound.recency_roomFor (h : c.Sound) (hon : 0 < c.settings.capacity)
    (hl : c.isLive now k = false) :
    (c.roomFor now k).recency.Sublist (c.recency.filter (· ≠ k)) := by
  have hmissing (hk : c.entries.get? k = none) : c.recency.filter (· ≠ k) = c.recency :=
    filter_ne_eq_self fun hm => Keyed.get?_eq_none_iff.1 hk ((h.mem_recency k).1 hm)
  rcases h.roomFor_cases hon hl with ⟨e, -, -, hr⟩ | ⟨hk, -, hr⟩ | ⟨hk, -, -, hr⟩ |
    ⟨hk, -, -, victim, rest, hq, hr⟩ <;> rw [hr]
  · exact recency_dropExpired ▸ .refl _
  · exact (hmissing hk).symm ▸ .refl _
  · rw [hmissing hk]
    exact recency_purge
  · rw [hmissing hk, hq]
    exact List.sublist_cons_self victim rest

/-- After a put its key comes last, unless it was not stored. -/
theorem Sound.recency_put (h : c.Sound) (hon : 0 < c.settings.capacity) :
    (c.put now k r).cache.recency.Sublist (c.recency.filter (· ≠ k) ++ [k]) := by
  rcases c.put_outcome_cases now k r with ⟨hoff, -⟩ | ⟨e, -, -, hp⟩ | ⟨-, hl, hp⟩ |
    ⟨-, hl, e, -, hp⟩
  · simp [CacheSettings.isEnabled, Nat.pos_iff_ne_zero.1 hon] at hoff
  · rw [hp]
    exact .refl _
  · rw [hp]
    exact (h.recency_roomFor hon hl).trans (List.sublist_append_left _ _)
  · rw [hp]
    exact (h.recency_roomFor hon hl).append (.refl _)

theorem recency_remove : (c.remove k).2.recency.Sublist c.recency := by
  unfold remove
  split
  · exact .refl _
  · exact List.filter_sublist

end RecordCache

/-! ## The latest uses -/

namespace CacheSession

variable {s : CacheSession} {k k' : CacheKey} {x : CacheStep} {steps : List CacheStep}

/-- Whether a request uses `k`: it puts it, or it gets it and finds it. -/
def uses (s : CacheSession) (k : CacheKey) : CacheStep → Bool
  | .put k' _ => k' = k
  | .get k' => k' = k && (s.cache.get s.now k').1.isSome
  | _ => false

/-- The place in a run of the latest request that uses `k`. -/
def lastUse? (s : CacheSession) (k : CacheKey) : List CacheStep → Option Nat
  | [] => none
  | x :: rest =>
    match (s.step x).lastUse? k rest with
    | some i => some (i + 1)
    | none => if s.uses k x then some 0 else none

theorem lastUse?_snoc : s.lastUse? k (steps ++ [x]) =
    if (s.run steps).uses k x then some steps.length else s.lastUse? k steps := by
  induction steps generalizing s with
  | nil => rfl
  | cons y rest ih =>
    have hrun : s.run (y :: rest) = (s.step y).run rest := rfl
    simp only [List.cons_append, lastUse?, ih, hrun]
    cases ((s.step y).run rest).uses k x <;> rfl

theorem lastUse?_lt {i : Nat} (h : s.lastUse? k steps = some i) : i < steps.length := by
  induction steps generalizing s i with
  | nil => cases h
  | cons x rest ih =>
    simp only [lastUse?] at h
    split at h
    · next j hj =>
      cases h
      exact Nat.succ_lt_succ (ih hj)
    · split at h
      · cases h
        exact Nat.succ_pos _
      · cases h

end CacheSession

/-- The latest use of `a` came before that of `b`. -/
def UsedBefore (lastUse? : CacheKey → Option Nat) (a b : CacheKey) : Prop :=
  ∃ i j, lastUse? a = some i ∧ lastUse? b = some j ∧ i < j

/-- All keys of a queue were used, the first one least recently. -/
structure Recent (lastUse? : CacheKey → Option Nat) (queue : List CacheKey) : Prop where
  used : ∀ k ∈ queue, ∃ i, lastUse? k = some i
  sorted : queue.Pairwise (UsedBefore lastUse?)

namespace Recent

variable {lastUse? lastUse'? : CacheKey → Option Nat} {queue queue' : List CacheKey} {k : CacheKey}
  {n : Nat}

theorem sublist (h : Recent lastUse? queue) (hs : queue'.Sublist queue) :
    Recent lastUse? queue' :=
  ⟨fun k hk => h.used k (hs.subset hk), h.sorted.sublist hs⟩

/-- The key that is used next goes to the end. -/
theorem use (h : Recent lastUse? queue) (hlt : ∀ k i, lastUse? k = some i → i < n)
    (hself : lastUse'? k = some n) (hother : ∀ k', k' ≠ k → lastUse'? k' = lastUse? k') :
    Recent lastUse'? (queue.filter (· ≠ k) ++ [k]) := by
  have hkept : ∀ k' ∈ queue.filter (· ≠ k), k' ∈ queue ∧ lastUse'? k' = lastUse? k' := by
    intro k' hk'
    obtain ⟨hmem, hne⟩ := List.mem_filter.1 hk'
    exact ⟨hmem, hother k' (by simpa using hne)⟩
  constructor
  · intro k' hk'
    rcases List.mem_append.1 hk' with hk' | hk'
    · obtain ⟨hmem, heq⟩ := hkept k' hk'
      exact heq ▸ h.used k' hmem
    · cases List.mem_singleton.1 hk'
      exact ⟨n, hself⟩
  · refine List.pairwise_append.2 ⟨?_, List.pairwise_singleton _ _, fun a ha b hb => ?_⟩
    · refine (h.sorted.sublist List.filter_sublist).imp_of_mem fun ha hb hab => ?_
      obtain ⟨i, j, hi, hj, hij⟩ := hab
      exact ⟨i, j, (hkept _ ha).2.trans hi, (hkept _ hb).2.trans hj, hij⟩
    · cases List.mem_singleton.1 hb
      obtain ⟨hmem, heq⟩ := hkept a ha
      obtain ⟨i, hi⟩ := h.used a hmem
      exact ⟨i, n, heq.trans hi, hself, hlt a i hi⟩

theorem usedBefore (h : Recent lastUse? (k :: queue)) {k' : CacheKey} (hk : k' ∈ k :: queue)
    (hne : k' ≠ k) : UsedBefore lastUse? k k' := by
  rcases List.mem_cons.1 hk with rfl | hk
  · exact (hne rfl).elim
  · exact List.rel_of_pairwise_cons h.sorted hk

end Recent

namespace CacheSession

open RecordCache

variable {s : CacheSession} {x : CacheStep} {past steps : List CacheStep}

/-- A request that uses a key puts it at the end of the queue; any other request only takes keys
away. -/
theorem recency_step (h : s.cache.Sound) (hon : 0 < s.cache.settings.capacity) (x : CacheStep) :
    (∃ k, (∀ k', s.uses k' x = decide (k = k')) ∧
      (s.step x).cache.recency.Sublist (s.cache.recency.filter (· ≠ k) ++ [k])) ∨
    ((∀ k', s.uses k' x = false) ∧ (s.step x).cache.recency.Sublist s.cache.recency) := by
  cases x with
  | get k =>
    cases hg : (s.cache.get s.now k).1 with
    | some r =>
      have hr : (s.step (.get k)).cache.recency = s.cache.recency.filter (· ≠ k) ++ [k] :=
        recency_get_of_some hg
      exact .inl ⟨k, fun k' => by simp [uses, hg], hr ▸ .refl _⟩
    | none => exact .inr ⟨fun k' => by simp [uses, hg], recency_get_of_none hg⟩
  | put k r => exact .inl ⟨k, fun k' => rfl, h.recency_put hon⟩
  | remove k => exact .inr ⟨fun k' => rfl, recency_remove⟩
  | clear => exact .inr ⟨fun k' => rfl, List.nil_sublist _⟩
  | purge => exact .inr ⟨fun k' => rfl, recency_purge⟩
  | clock now => exact .inr ⟨fun k' => rfl, .refl _⟩

/-- The queue is in the order of the latest uses in the past. -/
def InOrder (s : CacheSession) (past : List CacheStep) : Prop :=
  Recent (fun k => s.lastUse? k past) (s.run past).cache.recency

theorem InOrder.snoc (h : s.InOrder past) (hs : (s.run past).cache.Sound)
    (hon : 0 < (s.run past).cache.settings.capacity) : s.InOrder (past ++ [x]) := by
  unfold InOrder
  simp only [run_snoc, lastUse?_snoc]
  rcases recency_step hs hon x with ⟨k, huse, hr⟩ | ⟨huse, hr⟩
  · refine (Recent.use h (n := past.length) (fun k i => lastUse?_lt) ?_ fun k' hne => ?_).sublist hr
    · simp [huse]
    · simp [huse, Ne.symm hne]
  · simpa [huse] using Recent.sublist h hr

theorem inOrder_run {settings : CacheSettings} (hs : s.Sound settings) (hon : 0 < settings.capacity)
    (h : s.InOrder past) : s.InOrder (past ++ steps) := by
  induction steps generalizing past with
  | nil => simpa using h
  | cons x rest ih =>
    have hpast : (s.run past).Sound settings := hs.run past
    simpa using ih (h.snoc (x := x) hpast.sound (hpast.settings_eq ▸ hon))

theorem inOrder_new (settings : CacheSettings) (start : Moment) :
    (new settings start).InOrder [] where
  used _ hk := absurd hk List.not_mem_nil
  sorted := .nil

/-- The first key of the queue was used less recently than any other. -/
theorem usedBefore_of_first {settings : CacheSettings} {start : Moment} {k k' : CacheKey}
    {rest : List CacheKey} (hon : 0 < settings.capacity)
    (hq : ((new settings start).run steps).cache.recency = k :: rest)
    (hk' : ∃ e, ((new settings start).run steps).cache.entries.get? k' = some e) (hne : k' ≠ k) :
    UsedBefore (fun k => (new settings start).lastUse? k steps) k k' := by
  have hs := (sound_new settings start).run steps
  have horder : (new settings start).InOrder steps :=
    inOrder_run (sound_new settings start) hon (inOrder_new settings start)
  have hmem := hs.sound.mem_recency_iff.2 hk'
  unfold InOrder at horder
  rw [hq] at horder hmem
  exact horder.usedBefore hmem hne

/-- What a put drops after any run. Of a key with a live entry: nothing, and the entry gets the
record. Otherwise the record gets an entry, unless that breaks off, and dropped is nothing as long as
fewer other keys than the capacity are there; else the expired entries if there are any, and no live
one; else the entry of one key, whose latest use in the run came before that of each other key. -/
theorem dropped_by_put {settings : CacheSettings} (hon : 0 < settings.capacity) (start : Moment)
    (steps : List CacheStep) (k : CacheKey) (r : Record) :
    let s := (new settings start).run steps
    let c := s.cache
    let c' := (s.step (.put k r)).cache
    (c.isLive s.now k → (∀ k', k' ≠ k → c'.entries.get? k' = c.entries.get? k') ∧
      ∃ e, c.entries.get? k = some e ∧ c'.entries.get? k = some (e.replaced r)) ∧
    (c.isLive s.now k = false →
      ((c.put s.now k r).overflow = false → ∃ e, c'.entries.get? k = some e ∧ e.record = r) ∧
      ((c.others k).length < settings.capacity →
        ∀ k', k' ≠ k → c'.entries.get? k' = c.entries.get? k') ∧
      (settings.capacity ≤ (c.others k).length →
        (∃ k' ∈ c.others k, c.isLive s.now k' = false) →
        ∀ k', k' ≠ k → c'.entries.get? k' =
          if c.isLive s.now k' then c.entries.get? k' else none) ∧
      (settings.capacity ≤ (c.others k).length →
        (∀ k' ∈ c.others k, c.isLive s.now k') →
        ∃ victim ∈ c.others k,
          (∀ k', k' ≠ k → c'.entries.get? k' =
            if k' = victim then none else c.entries.get? k') ∧
          ∀ k' ∈ c.others k, k' ≠ victim →
            UsedBefore (fun k => (new settings start).lastUse? k steps) victim k')) := by
  intro s c c'
  have hs : s.Sound settings := (sound_new settings start).run steps
  have hsound : c.Sound := hs.sound
  have hset : c.settings = settings := hs.settings_eq
  have hen : c.settings.isEnabled := by simpa [CacheSettings.isEnabled, hset] using hon
  refine ⟨fun hl => ?_, fun hl => ?_⟩
  · obtain ⟨e, he, hput⟩ := get?_put_of_live (r := r) hl hen
    refine ⟨fun k' hne => (hput k').trans (if_neg (Ne.symm hne)), e, he, ?_⟩
    exact (hput k).trans (if_pos rfl)
  have hother (k' : CacheKey) (hne : k' ≠ k) :
      c'.entries.get? k' = (c.roomFor s.now k).entries.get? k' := get?_put_of_dead hen hl hne
  refine ⟨record_put_of_dead hen hl, ?_⟩
  rcases hsound.get?_roomFor (hset ▸ hon) hl with ⟨hroom, hkept⟩ | ⟨hfull, hdead, hkept⟩ |
    ⟨hfull, hlive, victim, rest, hq, hmem, hkept⟩
  · rw [hset] at hroom
    refine ⟨fun _ k' hne => (hother k' hne).trans (hkept k' hne), ?_, ?_⟩ <;> intro hfull <;> omega
  · rw [hset] at hfull
    refine ⟨fun hroom => by omega, fun _ _ k' hne => (hother k' hne).trans (hkept k' hne), ?_⟩
    intro _ hlive
    obtain ⟨k', hk', hdead⟩ := hdead
    rw [hlive k' hk'] at hdead
    cases hdead
  · rw [hset] at hfull
    refine ⟨fun hroom => by omega, fun _ hdead => ?_, fun _ _ => ?_⟩
    · obtain ⟨k', hk', hdead⟩ := hdead
      rw [hlive k' hk'] at hdead
      cases hdead
    · refine ⟨victim, hmem, fun k' hne => (hother k' hne).trans (hkept k' hne), ?_⟩
      exact fun k' hk' hne => usedBefore_of_first hon hq (mem_others_iff.1 hk').2 hne

/-- The first of three keys is read and the second one is put again, so the third one has to give
way. The fourth, which is asked for and missed, is not used by that. -/
theorem dropped_by_put_third :
    let k (n : Int64) : CacheKey := ⟨"T", .long n⟩
    let r (n : Int64) : Record := ⟨⟨.empty⟩, Keyed.ofList [("id", .long n)]⟩
    let settings : CacheSettings := { capacity := 3 }
    let steps : List CacheStep := [.put (k 1) (r 1), .put (k 2) (r 2), .put (k 3) (r 3),
      .get (k 1), .put (k 2) (r 5), .get (k 4)]
    let s := (new settings 0).run steps
    let c' := (s.step (.put (k 4) (r 4))).cache
    let lastUse? k := (new settings 0).lastUse? k steps
    0 < settings.capacity ∧ s.cache.others (k 4) = [k 1, k 2, k 3] ∧
      lastUse? (k 1) = some 3 ∧ lastUse? (k 2) = some 4 ∧ lastUse? (k 3) = some 2 ∧
      lastUse? (k 4) = none ∧
      ∀ k', k' ≠ k 4 → c'.entries.get? k' = if k' = k 3 then none else s.cache.entries.get? k' := by
  intro k r settings steps
  dsimp only
  have hon : 0 < settings.capacity := by decide
  have hothers : ((new settings 0).run steps).cache.others (k 4) = [k 1, k 2, k 3] := by decide
  have h₁ : (new settings 0).lastUse? (k 1) steps = some 3 := by decide
  have h₂ : (new settings 0).lastUse? (k 2) steps = some 4 := by decide
  have h₃ : (new settings 0).lastUse? (k 3) steps = some 2 := by decide
  refine ⟨hon, hothers, h₁, h₂, h₃, by decide, ?_⟩
  obtain ⟨-, hdead⟩ := dropped_by_put hon 0 steps (k 4) (r 4)
  obtain ⟨-, -, -, hfull⟩ := hdead (by decide)
  obtain ⟨victim, hmem, hkept, hlast⟩ := hfull (by decide) (by decide)
  have hvictim : victim = k 3 := by
    refine Decidable.byContradiction fun hne => ?_
    obtain ⟨i, j, hi, hj, hij⟩ := hlast (k 3) (by decide) (Ne.symm hne)
    have hj : j = 2 := Option.some.inj (hj.symm.trans h₃)
    rw [hothers] at hmem
    simp only [List.mem_cons, List.not_mem_nil, or_false] at hmem
    rcases hmem with rfl | rfl | rfl
    · have hi : i = 3 := Option.some.inj (hi.symm.trans h₁)
      omega
    · have hi : i = 4 := Option.some.inj (hi.symm.trans h₂)
      omega
    · exact hne rfl
  rw [hvictim] at hkept
  exact hkept

end CacheSession
end KeyedRecords
