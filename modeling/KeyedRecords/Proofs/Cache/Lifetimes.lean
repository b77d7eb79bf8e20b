import KeyedRecords.Proofs.Cache.Soundness

/-!
Lifetimes of records, told from what was asked of a cache and not from its entries. A put of a key
that has no lifetime, or one whose time is up, starts one; other puts of the key belong to it. A
lifetime ends when its key is removed, when everything is cleared, when it has to give way to a new
one, or when a request finds that its time is up.

The main statement is that a cache gives back what the lifetimes say (`get_run_eq_some_iff`).
-/

namespace KeyedRecords

structure Lifetime where
  /-- The moment of the put that started it. -/
  start : Moment
  /-- The record of its latest put. -/
  record : Record
  deriving DecidableEq

/-- The open lifetimes, from the least to the most recently used key. -/
abbrev Lifetimes := Keyed CacheKey Lifetime

namespace Lifetimes

variable {ls : Lifetimes} {k k' : CacheKey} {l : Lifetime}

/-- Whether the time of a lifetime is up. -/
def isOver (ttl : Option Span) (now : Moment) (l : Lifetime) : Bool :=
  match ttl with
  | some d => l.start + d.nanos ≤ now
  | none => false

/-- The open lifetime of `k`, if its time is not up. -/
def current? (ls : Lifetimes) (ttl : Option Span) (now : Moment) (k : CacheKey) : Option Lifetime :=
  (ls.get? k).filter fun l => !isOver ttl now l

/-- Gives the lifetime of `k` anew and makes `k` the most recently used key. -/
def use (ls : Lifetimes) (k : CacheKey) (l : Lifetime) : Lifetimes := (ls.erase k).insert k l

/-- Ends the lifetimes whose time is up. -/
def endOver (ls : Lifetimes) (ttl : Option Span) (now : Moment) : Lifetimes :=
  ls.filter fun p => !isOver ttl now p.2

/-- Ends the lifetime of the least recently used key. -/
def endOldest (ls : Lifetimes) : Lifetimes :=
  match ls.keys with
  | [] => ls
  | k :: _ => ls.erase k

/-- What stays open when one more lifetime starts. If there are too many, those whose time is up
end, and if there are still too many, one more. -/
def giveWay (ls : Lifetimes) (settings : CacheSettings) (now : Moment) : Lifetimes :=
  if ls.size < settings.capacity then ls
  else
    let ls := ls.endOver settings.effectiveTtl now
    if ls.size < settings.capacity then ls else ls.endOldest

/-- The open lifetimes of a cache with a capacity for one record at least, after one more request at
the moment `now`. -/
def after (ls : Lifetimes) (settings : CacheSettings) (now : Moment) : CacheStep → Lifetimes
  | .get k =>
    match ls.get? k with
    | none => ls
    | some l => if isOver settings.effectiveTtl now l then ls.erase k else ls.use k l
  | .put k r =>
    match ls.current? settings.effectiveTtl now k with
    | some l => ls.use k { l with record := r }
    | none => Keyed.insert (giveWay (ls.erase k) settings now) k ⟨now, r⟩
  | .remove k => ls.erase k
  | .clear => .empty
  | .purge => ls.endOver settings.effectiveTtl now
  | .clock _ => ls

end Lifetimes

/-- What the past of a cache comes to. -/
structure CacheHistory where
  lifetimes : Lifetimes
  now : Moment

namespace CacheHistory

def new (now : Moment) : CacheHistory := ⟨.empty, now⟩

def step (settings : CacheSettings) (h : CacheHistory) : CacheStep → CacheHistory
  | .clock now => { h with now }
  | x => { h with lifetimes := h.lifetimes.after settings h.now x }

def run (settings : CacheSettings) (h : CacheHistory) (steps : List CacheStep) : CacheHistory :=
  steps.foldl (step settings) h

end CacheHistory

/-! ## Readings of a clock -/

namespace Instant

/-- The first reading that a clock can show, at the beginning of the year -262143. -/
def firstMoment : Moment := -8334601228800000000000

def IsReading (t : Moment) : Prop := firstMoment ≤ t ∧ t ≤ lastMoment

instance (t : Moment) : Decidable (IsReading t) := inferInstanceAs (Decidable (_ ∧ _))

end Instant

open Instant

/-! ## Lifetimes and entries -/

/-- An entry holds what its lifetime says. -/
structure Lifetime.Shows (ttl : Option Span) (l : Lifetime) (e : CacheEntry) : Prop where
  record_eq : e.record = l.record
  expiry_eq : CacheEntry.expiry? l.start ttl = some e.expiresAt
  reading : IsReading l.start

namespace Lifetimes

variable {settings : CacheSettings} {ttl : Option Span} {now : Moment} {c c' : RecordCache}
  {ls : Lifetimes} {k k' : CacheKey} {e : CacheEntry} {l : Lifetime}

/-- No reading of a clock lies as far ahead as the longest span. -/
theorem lt_add_of_longest {start now : Int} {d : Span} (hstart : IsReading start)
    (hnow : IsReading now) (hd : Span.longest.nanos < d.nanos) : now < start + d.nanos := by
  have hfirst : (-8334601228800000000000 : Int) ≤ start := hstart.1
  have hlast : now ≤ (8210266876799999999999 : Int) := hnow.2
  have hlong : 9223372036854775807000000 < d.nanos := hd
  omega

/-- A span too long to move a clock by ends no lifetime before the last moment either. -/
theorem isExpired_of_shows (h : l.Shows ttl e) (hnow : IsReading now) :
    e.isExpired now = isOver ttl now l := by
  have hexp := h.expiry_eq
  cases ttl with
  | none =>
    simp only [CacheEntry.expiry?, Option.some.injEq] at hexp
    simp [CacheEntry.isExpired, isOver, ← hexp]
  | some d =>
    simp only [CacheEntry.expiry?] at hexp
    split at hexp
    · next hlong =>
      have hlt := lt_add_of_longest h.reading hnow hlong
      simp only [Option.some.injEq] at hexp
      simp [CacheEntry.isExpired, isOver, ← hexp, hlt]
    · split at hexp
      · simp only [Option.some.injEq] at hexp
        simp [CacheEntry.isExpired, isOver, ← hexp]
      · cases hexp

theorem keys_use : (ls.use k l).keys = ls.keys.filter (· ≠ k) ++ [k] := by
  simp [use, Keyed.keys_insert, Keyed.keys_erase]

theorem get?_use : (ls.use k l).get? k' = if k = k' then some l else ls.get? k' := by
  simp only [use, Keyed.get?_insert, Keyed.get?_erase]
  split <;> rfl

/-- The entries of a cache are the open lifetimes, and its queue is in their order. -/
structure Tracks (ttl : Option Span) (c : RecordCache) (ls : Lifetimes) : Prop where
  keys_eq : ls.keys = c.recency
  shown : ∀ k l, ls.get? k = some l → ∃ e, c.entries.get? k = some e ∧ l.Shows ttl e

namespace Tracks

theorem of_eq (h : Tracks ttl c ls) (he : c'.entries = c.entries) (hr : c'.recency = c.recency) :
    Tracks ttl c' ls where
  keys_eq := hr ▸ h.keys_eq
  shown := he ▸ h.shown

theorem get?_cases (h : Tracks ttl c ls) (hc : c.Sound) (k : CacheKey) :
    (ls.get? k = none ∧ c.entries.get? k = none) ∨
    ∃ l e, ls.get? k = some l ∧ c.entries.get? k = some e ∧ l.Shows ttl e := by
  cases hl : ls.get? k with
  | none =>
    have hk : k ∉ c.recency := h.keys_eq ▸ Keyed.get?_eq_none_iff.1 hl
    exact .inl ⟨rfl, Keyed.get?_eq_none_iff.2 fun hm => hk ((hc.mem_recency k).2 hm)⟩
  | some l =>
    obtain ⟨e, he, hs⟩ := h.shown k l hl
    exact .inr ⟨l, e, rfl, he, hs⟩

theorem size_eq (h : Tracks ttl c ls) (hc : c.Sound) : ls.size = c.size := by
  rw [Keyed.size_eq_length_keys, h.keys_eq, hc.size_eq]

theorem erase (h : Tracks ttl c ls)
    (he : ∀ k', c'.entries.get? k' = if k' = k then none else c.entries.get? k')
    (hr : c'.recency = c.recency.filter (· ≠ k)) : Tracks ttl c' (ls.erase k) where
  keys_eq := by rw [Keyed.keys_erase, h.keys_eq, hr]
  shown k' l hl := by
    rw [Keyed.get?_erase] at hl
    split at hl
    · cases hl
    · next hne =>
      obtain ⟨e, hk, hs⟩ := h.shown k' l hl
      exact ⟨e, by simp [he, Ne.symm hne, hk], hs⟩

theorem dropExpired (h : Tracks ttl c ls) (k : CacheKey) :
    Tracks ttl (c.dropExpired k) (ls.erase k) := by
  refine h.erase (fun k' => RecordCache.get?_dropExpired) ?_
  simp [RecordCache.dropExpired, RecordCache.countExpired, RecordCache.without,
    RecordCache.recount]

theorem vacate (h : Tracks ttl c ls) (hc : c.Sound) (k : CacheKey) :
    Tracks ttl (c.vacate k) (ls.erase k) := by
  refine h.erase (fun k' => RecordCache.get?_vacate) ?_
  unfold RecordCache.vacate
  split
  · simp [RecordCache.dropExpired, RecordCache.countExpired, RecordCache.without,
      RecordCache.recount]
  · next hk =>
    have hnone : c.entries.get? k = none := by simpa [Keyed.contains] using hk
    have hmem : k ∉ c.recency := fun hm =>
      Keyed.get?_eq_none_iff.1 hnone ((hc.mem_recency k).1 hm)
    exact (filter_ne_eq_self hmem).symm

theorem use (h : Tracks ttl c ls) (hs : l.Shows ttl e) : Tracks ttl (c.renew k e) (ls.use k l) where
  keys_eq := by
    rw [keys_use, h.keys_eq]
    rfl
  shown k' l' hl := by
    rw [get?_use] at hl
    rw [RecordCache.get?_renew]
    split at hl
    · cases hl
      exact ⟨e, by simp [*], hs⟩
    · obtain ⟨e', he, hs'⟩ := h.shown k' l' hl
      exact ⟨e', by simp [*], hs'⟩

theorem insert (h : Tracks ttl c ls) (hk : ls.get? k = none) (hs : l.Shows ttl e) :
    Tracks ttl (c.add k e) (ls.insert k l) where
  keys_eq := by
    rw [Keyed.keys_insert, if_neg (Keyed.get?_eq_none_iff.1 hk), h.keys_eq]
    rfl
  shown k' l' hl := by
    rw [Keyed.get?_insert] at hl
    rw [RecordCache.get?_add]
    split at hl
    · cases hl
      exact ⟨e, by simp [*], hs⟩
    · obtain ⟨e', he, hs'⟩ := h.shown k' l' hl
      exact ⟨e', by simp [*], hs'⟩

theorem endOver (h : Tracks ttl c ls) (hnow : IsReading now) :
    Tracks ttl (c.purge now).2 (ls.endOver ttl now) := by
  have hkey : ∀ k l, ls.get? k = some l →
      (c.expiredKeys now).contains k = isOver ttl now l := by
    intro k l hl
    obtain ⟨e, he, hs⟩ := h.shown k l hl
    rw [RecordCache.contains_expiredKeys, he, Option.any_some, isExpired_of_shows hs hnow]
  obtain ⟨hentries, hrecency⟩ := RecordCache.purge_fields (c := c)
  refine of_eq (c := c.without (c.expiredKeys now).contains) ⟨?_, fun k l hl => ?_⟩ hentries
    hrecency
  · have hfilter : (ls.endOver ttl now).keys =
        ls.keys.filter fun k => !(c.expiredKeys now).contains k := by
      rw [Lifetimes.endOver, Keyed.keys_filter]
      refine List.filter_congr fun k hk => ?_
      obtain ⟨l, hl⟩ := Keyed.mem_keys_iff.1 hk
      rw [hl, Option.any_some, hkey k l hl]
    rw [hfilter, h.keys_eq]
    rfl
  · rw [Lifetimes.endOver, Keyed.get?_filter, Option.filter_eq_some_iff] at hl
    obtain ⟨hl, hover⟩ := hl
    obtain ⟨e, he, hs⟩ := h.shown k l hl
    refine ⟨e, ?_, hs⟩
    rw [RecordCache.get?_without, hkey k l hl]
    simpa [he] using hover

theorem endOldest (h : Tracks ttl c ls) (hc : c.Sound) (hon : 0 < c.settings.capacity)
    (hfull : ¬c.size < c.settings.capacity) : Tracks ttl c.evict ls.endOldest := by
  rcases hc.evict_cases hon with ⟨hlt, -⟩ | ⟨k, rest, hq, -, he⟩
  · exact absurd hlt hfull
  have hkeys : ls.keys = k :: rest := h.keys_eq.trans hq
  have hrest : c.recency.filter (· ≠ k) = rest := by
    obtain ⟨hk, -⟩ := List.nodup_cons.1 (hq ▸ hc.nodup)
    rw [hq, List.filter_cons_of_neg (by simp), filter_ne_eq_self hk]
  have hold : ls.endOldest = ls.erase k := by simp only [Lifetimes.endOldest, hkeys]
  rw [he, hold]
  refine h.erase (fun k' => ?_) hrest.symm
  simp [eq_comm]

theorem giveWay (h : Tracks settings.effectiveTtl c ls) (hc : c.Sound)
    (hset : c.settings = settings) (hon : 0 < settings.capacity) (hnow : IsReading now) :
    Tracks settings.effectiveTtl (c.makeRoom now) (ls.giveWay settings now) := by
  unfold Lifetimes.giveWay RecordCache.makeRoom
  rw [h.size_eq hc, hset]
  split
  · exact h
  have hp := h.endOver hnow
  have hpc : (c.purge now).2.Sound := hc.purge
  have hps : (c.purge now).2.settings = settings := RecordCache.settings_purge.trans hset
  have hsize := hp.size_eq hpc
  simp only [hsize]
  split
  · next hlt =>
    rcases hpc.evict_cases (hps ▸ hon) with ⟨-, he⟩ | ⟨k, rest, -, hfull, -⟩
    · rw [he]
      exact hp
    · rw [hps] at hfull
      omega
  · next hfull => exact hp.endOldest hpc (hps ▸ hon) (hps ▸ hfull)

theorem current?_eq_none_iff (h : Tracks ttl c ls) (hc : c.Sound) (hnow : IsReading now)
    (k : CacheKey) : ls.current? ttl now k = none ↔ c.isLive now k = false := by
  rcases h.get?_cases hc k with ⟨hl, he⟩ | ⟨l, e, hl, he, hs⟩
  · simp [current?, hl, RecordCache.isLive, he]
  · simp [current?, hl, RecordCache.isLive, he, isExpired_of_shows hs hnow]

theorem get (h : Tracks settings.effectiveTtl c ls) (hc : c.Sound) (hon : c.settings.isEnabled)
    (hnow : IsReading now) :
    Tracks settings.effectiveTtl (c.get now k).2 (ls.after settings now (.get k)) := by
  rcases h.get?_cases hc k with ⟨hl, he⟩ | ⟨l, e, hl, he, hs⟩
  · simp only [after, hl, RecordCache.get_of_missing he]
    exact h.of_eq rfl rfl
  have hover := isExpired_of_shows hs hnow
  simp only [after, hl, ← hover]
  split
  · next hx =>
    rw [RecordCache.get_of_expired hon he hx]
    exact (h.dropExpired k).of_eq rfl rfl
  · next hx =>
    rw [RecordCache.get_of_live hon he (Bool.eq_false_iff.2 hx)]
    have hacc : l.Shows settings.effectiveTtl (e.accessed now) :=
      ⟨hs.record_eq, hs.expiry_eq, hs.reading⟩
    exact (h.use hacc).of_eq rfl rfl

theorem put (h : Tracks settings.effectiveTtl c ls) (hc : c.Sound) (hset : c.settings = settings)
    (hon : 0 < settings.capacity) (hnow : IsReading now) (r : Record)
    (hp : (c.put now k r).overflow = false) :
    Tracks settings.effectiveTtl (c.put now k r).cache (ls.after settings now (.put k r)) := by
  have hen : c.settings.isEnabled := by simpa [CacheSettings.isEnabled, hset] using hon
  cases hlive : c.isLive now k with
  | true =>
    obtain ⟨e, he, hx⟩ := RecordCache.isLive_iff.1 hlive
    rcases h.get?_cases hc k with ⟨-, hnone⟩ | ⟨l, e', hl, he', hs⟩
    · rw [hnone] at he
      cases he
    cases he.symm.trans he'
    have hcur : ls.current? settings.effectiveTtl now k = some l := by
      rw [current?, hl]
      simp [← isExpired_of_shows hs hnow, hx]
    simp only [after, hcur, RecordCache.put_of_live hen he hx]
    exact h.use ⟨rfl, hs.expiry_eq, hs.reading⟩
  | false =>
    have hcur := (h.current?_eq_none_iff hc hnow k).2 hlive
    have hvs : (c.vacate k).settings = settings := RecordCache.settings_vacate.trans hset
    have hroom := (h.vacate hc k).giveWay hc.vacate hvs hon hnow
    have hsound : ((c.vacate k).makeRoom now).Sound := (hc.vacate.makeRoom (hvs ▸ hon)).1
    rw [RecordCache.put_of_dead hen hlive] at hp ⊢
    rcases (c.vacate k).putNew_cases now k r with ⟨-, hn⟩ | ⟨e, he, hn⟩ <;> rw [hn] at hp ⊢
    · cases hp
    obtain ⟨-, hr, hexp⟩ := CacheEntry.of_create? he
    simp only [after, hcur]
    refine hroom.insert ?_ ⟨hr, hvs ▸ hexp, hnow⟩
    have hgone : ((c.vacate k).makeRoom now).entries.get? k = none :=
      RecordCache.within_makeRoom.get?_eq_none (by simp [RecordCache.get?_vacate])
    rcases hroom.get?_cases hsound k with ⟨hl, -⟩ | ⟨l, e', -, he', -⟩
    · exact hl
    · rw [hgone] at he'
      cases he'

theorem remove (h : Tracks ttl c ls) (hc : c.Sound) : Tracks ttl (c.remove k).2 (ls.erase k) := by
  unfold RecordCache.remove
  split
  · next he =>
    refine h.erase (fun k' => ?_) ?_
    · split
      · next hk => exact hk ▸ he
      · rfl
    · have hmem : k ∉ c.recency := fun hm => Keyed.get?_eq_none_iff.1 he ((hc.mem_recency k).1 hm)
      exact (filter_ne_eq_self hmem).symm
  · exact (h.dropExpired k).of_eq rfl rfl

end Tracks
end Lifetimes

/-! ## Runs -/

namespace CacheHistory

open Lifetimes

variable {settings : CacheSettings} {s : CacheSession} {h : CacheHistory} {x : CacheStep}
  {steps : List CacheStep} {now : Moment} {k : CacheKey} {r : Record}

/-- A history tells what is in a cache. -/
structure Tells (settings : CacheSettings) (h : CacheHistory) (s : CacheSession) : Prop where
  sound : s.Sound settings
  now_eq : h.now = s.now
  reading : IsReading s.now
  tracks : Tracks settings.effectiveTtl s.cache h.lifetimes

theorem tells_new (hnow : IsReading now) :
    (CacheHistory.new now).Tells settings (CacheSession.new settings now) where
  sound := CacheSession.sound_new settings now
  now_eq := rfl
  reading := hnow
  tracks := ⟨rfl, fun _ _ hl => nomatch hl⟩

theorem Tells.step (ht : h.Tells settings s) (hon : 0 < settings.capacity)
    (hclock : ∀ now, x = .clock now → IsReading now) (hb : (s.step x).broken = false) :
    (h.step settings x).Tells settings (s.step x) := by
  obtain ⟨ls, now⟩ := h
  obtain ⟨hsound, rfl, hnow, htr⟩ := ht
  have hset := hsound.settings_eq
  have hs' := hsound.step x
  cases x with
  | get k =>
    have hen : s.cache.settings.isEnabled := by simpa [CacheSettings.isEnabled, hset] using hon
    exact ⟨hs', rfl, hnow, htr.get hsound.sound hen hnow⟩
  | put k r =>
    obtain ⟨-, hp⟩ := Bool.or_eq_false_iff.1 hb
    exact ⟨hs', rfl, hnow, htr.put hsound.sound hset hon hnow r hp⟩
  | remove k => exact ⟨hs', rfl, hnow, htr.remove hsound.sound⟩
  | clear => exact ⟨hs', rfl, hnow, rfl, fun _ _ hl => by cases hl⟩
  | purge => exact ⟨hs', rfl, hnow, htr.endOver hnow⟩
  | clock now => exact ⟨hs', rfl, hclock now rfl, htr⟩

theorem Tells.run (ht : h.Tells settings s) (hon : 0 < settings.capacity)
    (hclock : ∀ now, .clock now ∈ steps → IsReading now) (hb : (s.run steps).broken = false) :
    (h.run settings steps).Tells settings (s.run steps) := by
  induction steps generalizing s h with
  | nil => exact ht
  | cons x rest ih =>
    have hx : ∀ now, x = .clock now → IsReading now := fun now hx =>
      hclock now (hx ▸ List.mem_cons_self)
    have hrest : ∀ now, .clock now ∈ rest → IsReading now := fun now hm =>
      hclock now (List.mem_cons_of_mem _ hm)
    exact ih (ht.step hon hx (CacheSession.unbroken_of_run hb)) hrest hb

/-- What a get gives, in terms of lifetimes. -/
theorem Tells.get_eq_some_iff (ht : h.Tells settings s) (hon : 0 < settings.capacity)
    {k : CacheKey} {r : Record} :
    (s.cache.get s.now k).1 = some r ↔
      ∃ l, h.lifetimes.get? k = some l ∧ l.record = r ∧
        isOver settings.effectiveTtl s.now l = false := by
  have hen : s.cache.settings.isEnabled := by
    simpa [CacheSettings.isEnabled, ht.sound.settings_eq] using hon
  rcases ht.tracks.get?_cases ht.sound.sound k with ⟨hl, he⟩ | ⟨l, e, hl, he, hs⟩
  · simp [RecordCache.get_of_missing he, hl]
  have hover := isExpired_of_shows hs ht.reading
  simp only [hl, Option.some.injEq, exists_eq_left', ← hover]
  cases hx : e.isExpired s.now with
  | true => simp [RecordCache.get_of_expired hen he hx]
  | false => simp [RecordCache.get_of_live hen he hx, hs.record_eq]

theorem isOver_eq_false_iff {l : Lifetime} :
    isOver settings.effectiveTtl now l = false ↔
      ∀ ttl, settings.ttl = some ttl → ttl.isZero ∨ now < l.start + ttl.nanos := by
  cases httl : settings.ttl with
  | none => simp [CacheSettings.effectiveTtl, httl, isOver]
  | some ttl =>
    cases hz : ttl.isZero <;> simp [CacheSettings.effectiveTtl, httl, isOver, hz, Option.filter]

end CacheHistory

/-- No request moves the expiry of an entry, unless a put starts a new lifetime. -/
theorem CacheSession.expiresAt_step {s : CacheSession} {x : CacheStep} {k : CacheKey}
    {e' : CacheEntry} (h : (s.step x).cache.entries.get? k = some e') :
    (∃ r, x = .put k r ∧ s.cache.isLive s.now k = false) ∨
      ∃ e, s.cache.entries.get? k = some e ∧ e'.expiresAt = e.expiresAt := by
  cases x with
  | get k' =>
    obtain ⟨e, he, hacc⟩ := RecordCache.entry_of_get h
    refine .inr ⟨e, he, ?_⟩
    rcases hacc with rfl | rfl <;> rfl
  | put k' r =>
    rcases RecordCache.entry_of_put h with he | ⟨rfl, e, he, -, rfl⟩ | ⟨rfl, hl, -⟩
    · exact .inr ⟨e', he, rfl⟩
    · exact .inr ⟨e, he, rfl⟩
    · exact .inl ⟨r, rfl, hl⟩
  | remove k' => exact .inr ⟨e', RecordCache.within_remove _ _ h, rfl⟩
  | clear => exact .inr ⟨e', RecordCache.within_clear _ _ h, rfl⟩
  | purge => exact .inr ⟨e', RecordCache.within_purge _ _ h, rfl⟩
  | clock now => exact .inr ⟨e', h, rfl⟩

/-- A get after a run gives back the record of the latest put of the open lifetime of its key, as
long as the moment of the put that started the lifetime is not a whole time to live ago. Nothing
but a put that starts a new lifetime moves that bound. -/
theorem get_run_eq_some_iff {settings : CacheSettings} {start : Moment} {steps : List CacheStep}
    (hon : 0 < settings.capacity) (hstart : IsReading start)
    (hclock : ∀ now, .clock now ∈ steps → IsReading now)
    (hb : ((CacheSession.new settings start).run steps).broken = false)
    (k : CacheKey) (r : Record) :
    let s := (CacheSession.new settings start).run steps
    let h := (CacheHistory.new start).run settings steps
    ((s.cache.get s.now k).1 = some r ↔
        ∃ l, h.lifetimes.get? k = some l ∧ l.record = r ∧
          ∀ ttl, settings.ttl = some ttl → ttl.isZero ∨ s.now < l.start + ttl.nanos) ∧
      ∀ x e', (s.step x).cache.entries.get? k = some e' →
        (∃ r', x = .put k r' ∧ s.cache.isLive s.now k = false) ∨
          ∃ e, s.cache.entries.get? k = some e ∧ e'.expiresAt = e.expiresAt := by
  intro s h
  have ht : h.Tells settings s := (CacheHistory.tells_new hstart).run hon hclock hb
  refine ⟨?_, fun x e' => CacheSession.expiresAt_step⟩
  simp only [ht.get_eq_some_iff hon, CacheHistory.isOver_eq_false_iff]

/-- The second of two puts counts, and the time runs from the first: with five nanoseconds to live,
four of them gone, the second record is there. -/
theorem get_run_overwritten :
    let k : CacheKey := ⟨"T", .long 1⟩
    let record (n : Int64) : Record := ⟨⟨.empty⟩, Keyed.ofList [("id", .long n)]⟩
    let settings : CacheSettings := { capacity := 1, ttl := some ⟨5⟩ }
    let steps : List CacheStep := [.put k (record 1), .clock 3, .put k (record 2), .clock 4]
    let s := (CacheSession.new settings 0).run steps
    0 < settings.capacity ∧ IsReading 0 ∧ (∀ now, .clock now ∈ steps → IsReading now) ∧
      s.broken = false ∧ (s.cache.get s.now k).1 = some (record 2) := by
  intro k record settings steps s
  have hclock : ∀ now, .clock now ∈ steps → IsReading now := by
    intro now hnow
    simp only [steps, List.mem_cons, CacheStep.clock.injEq, List.not_mem_nil, reduceCtorEq,
      or_false, false_or] at hnow
    rcases hnow with rfl | rfl <;> decide
  refine ⟨by decide, by decide, hclock, by decide, ?_⟩
  refine (get_run_eq_some_iff (by decide) (by decide) hclock (by decide) k (record 2)).1.2 ?_
  refine ⟨⟨0, record 2⟩, by decide, rfl, ?_⟩
  rintro ttl ⟨⟩
  exact .inr (by decide)

end KeyedRecords
