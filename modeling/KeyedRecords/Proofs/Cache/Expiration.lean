import KeyedRecords.Proofs.Cache.Requests
import KeyedRecords.Proofs.Settings.Checks

/-!
Which times to live a cache can keep. The check of the settings bounds a time to live by the longest
span that a clock can be moved by, and does not ask where the clock would be then. The first record
of a cache is stored with its exact expiry if that expiry is a reading of a clock at all, which the
settings that are accepted do not ensure.

An entry tells its expiry in two ways, which agree at all moments but one (`toldAlike_iff`).
-/

namespace KeyedRecords

/-! ## Accepted settings -/

namespace CacheSettings

variable {settings : CacheSettings} {now : Moment}

theorem check_eq_ok_iff : settings.check = .ok () ↔
    ∀ ttl, settings.effectiveTtl = some ttl → ttl.nanos ≤ Span.longest.nanos := by
  unfold check fault?
  cases settings.effectiveTtl with
  | none => simp
  | some ttl => by_cases hle : ttl.nanos ≤ Span.longest.nanos <;> simp [hle]

/-- Settings that have passed a check, as they are or with those of the lookup that they belong
to. -/
inductive Accepted : CacheSettings → Prop
  | alone {settings : CacheSettings} : settings.check = .ok () → Accepted settings
  | within {row : RowSettings} : row.check = .ok () → Accepted row.cache
  | ofProperties {ps : Properties} {row : RowSettings} :
    RowSettings.ofProperties ps = .ok row → Accepted row.cache

theorem Accepted.check (h : settings.Accepted) : settings.check = .ok () := by
  cases h with
  | alone h => exact h
  | within h => exact RowSettings.check_cache_of_check h
  | ofProperties h => exact RowSettings.check_cache_of_check (RowSettings.check_of_ofProperties h)

/-- The end of the lifetime of an entry that is created now. -/
def endOfLife? (settings : CacheSettings) (now : Moment) : Option Moment :=
  settings.effectiveTtl.map fun ttl => now + ttl.nanos

/-- The end of life is the expiry of the entry, unless no clock will show it. -/
theorem Accepted.expiry?_eq (h : settings.Accepted) :
    CacheEntry.expiry? now settings.effectiveTtl =
      if ∃ t, settings.endOfLife? now = some t ∧ Instant.lastMoment < t then none
      else some (settings.endOfLife? now) := by
  have hle := check_eq_ok_iff.1 h.check
  cases httl : settings.effectiveTtl with
  | none => simp [CacheEntry.expiry?, endOfLife?, httl]
  | some ttl =>
    have hlong : ¬Span.longest.nanos < ttl.nanos := Nat.not_lt.2 (hle ttl httl)
    simp only [CacheEntry.expiry?, endOfLife?, httl, Option.map_some, Option.some.injEq, hlong,
      if_false, exists_eq_left']
    by_cases hend : Instant.lastMoment < now + ttl.nanos
    · rw [if_pos hend, if_neg (Int.not_le.2 hend)]
    · rw [if_neg hend, if_pos (Int.not_lt.1 hend)]

end CacheSettings

/-! ## The first record of a cache -/

namespace RecordCache

variable {settings : CacheSettings} {now : Moment} {k : CacheKey} {r : Record}

theorem put_new (hon : 0 < settings.capacity) :
    (new settings).put now k r = (new settings).putNew now k r := by
  simp [put, new, CacheSettings.isEnabled, hon]

/-- With accepted settings the first record is stored, with its exact expiry, unless the last moment
is before that. -/
theorem put_new_of_accepted (h : settings.Accepted) (hon : 0 < settings.capacity) (now : Moment)
    (k : CacheKey) (r : Record) :
    let stored := (new settings).put now k r
    (stored.overflow = true ↔
        ∃ t, settings.endOfLife? now = some t ∧ Instant.lastMoment < t) ∧
      (stored.overflow = false → ∃ e, stored.cache.entries.get? k = some e ∧ e.record = r ∧
        e.expiresAt = settings.endOfLife? now) := by
  rw [put_new hon]
  have hset : (new settings).settings = settings := rfl
  rcases (new settings).putNew_cases now k r with ⟨he, hn⟩ | ⟨e, he, hn⟩ <;> rw [hn]
  · have hnone := CacheEntry.create?_eq_none_iff.1 he
    rw [hset, h.expiry?_eq] at hnone
    split at hnone
    · next hlast => exact ⟨⟨fun _ => hlast, fun _ => rfl⟩, nofun⟩
    · cases hnone
  · obtain ⟨-, hrecord, hexpiry⟩ := CacheEntry.of_create? he
    rw [hset, h.expiry?_eq] at hexpiry
    split at hexpiry
    · cases hexpiry
    · next hlast =>
      refine ⟨⟨nofun, fun ht => (hlast ht).elim⟩, fun _ => ⟨e, ?_, hrecord, ?_⟩⟩
      · simp [get?_add]
      · exact (Option.some.inj hexpiry).symm

/-- Settings for a table whose records are to live for some days. -/
def daysToLive (days : String) : Properties :=
  Keyed.ofList [(Properties.tableName, "T"), (Properties.whereClause, "id = ?"),
    (Properties.cacheSize, "10"), (Properties.expiration, days)]

def rowsWithTtl (ttl : Span) : RowSettings :=
  { tableName := "T", whereClause := "id = ?", cache := { capacity := 10, ttl := some ttl } }

theorem ofProperties_daysToLive :
    RowSettings.ofProperties (daysToLive "30 days") = .ok (rowsWithTtl (.ofSeconds 2592000)) ∧
    RowSettings.ofProperties (daysToLive "100000000 days") =
      .ok (rowsWithTtl (.ofSeconds 8640000000000)) :=
  ⟨by with_unfolding_all rfl, by with_unfolding_all rfl⟩

/-- In November 2023 a record with thirty days to live is stored. -/
theorem put_new_of_accepted_month :
    let settings := (rowsWithTtl (.ofSeconds 2592000)).cache
    let stored := (new settings).put 1700000000000000000 ⟨"T", .long 1⟩ ⟨⟨.empty⟩, .empty⟩
    settings.Accepted ∧ 0 < settings.capacity ∧ stored.overflow = false ∧
      ∃ e, stored.cache.entries.get? ⟨"T", .long 1⟩ = some e ∧ e.record = ⟨⟨.empty⟩, .empty⟩ ∧
        e.expiresAt = some 1702592000000000000 := by
  intro settings stored
  have hacc : settings.Accepted := .ofProperties ofProperties_daysToLive.1
  have hon : 0 < settings.capacity := by decide
  obtain ⟨hover, hstored⟩ := put_new_of_accepted hacc hon 1700000000000000000 ⟨"T", .long 1⟩
    ⟨⟨.empty⟩, .empty⟩
  have hno : stored.overflow = false := by decide
  exact ⟨hacc, hon, hno, hstored hno⟩

/-- Accepted settings do not always let a record be stored: a hundred million days from November
2023 on, the last moment is over. -/
theorem not_stored_of_accepted :
    ¬ ∀ (settings : CacheSettings) (now : Moment) (k : CacheKey) (r : Record),
      settings.Accepted → 0 < settings.capacity → 0 ≤ now → now ≤ 253402300799999999999 →
      let stored := (new settings).put now k r
      stored.overflow = false ∧ ∃ e, stored.cache.entries.get? k = some e ∧ e.record = r ∧
        e.expiresAt = settings.endOfLife? now := by
  intro h
  have hacc : (rowsWithTtl (.ofSeconds 8640000000000)).cache.Accepted :=
    .ofProperties ofProperties_daysToLive.2
  obtain ⟨hno, -⟩ := h _ 1700000000000000000 ⟨"T", .long 1⟩ ⟨⟨.empty⟩, .empty⟩ hacc (by decide)
    (by decide) (by decide)
  revert hno
  decide

end RecordCache

/-! ## Time left -/

namespace CacheEntry

variable {e : CacheEntry} {now : Moment} {d : Span}

theorem isExpired_iff : e.isExpired now = true ↔ ∃ t, e.expiresAt = some t ∧ t ≤ now := by
  cases h : e.expiresAt <;> simp [isExpired, h]

theorem timeLeft?_eq_some_iff : e.timeLeft? now = some d ↔ e.expiresAt = some (now + d.nanos) := by
  cases h : e.expiresAt with
  | none => simp [timeLeft?, h]
  | some t =>
    simp only [timeLeft?, h, Option.ite_none_right_eq_some, Option.some.injEq]
    constructor
    · rintro ⟨hle, rfl⟩
      rw [Int.toNat_of_nonneg (Int.sub_nonneg.2 hle), Int.add_comm, Int.sub_add_cancel]
    · rintro rfl
      exact ⟨Int.le_add_of_nonneg_right (Int.natCast_nonneg _), by
        rw [Int.add_comm, Int.add_sub_cancel, Int.toNat_natCast]⟩

theorem timeLeft?_eq_none_iff :
    e.timeLeft? now = none ↔ ∀ t, e.expiresAt = some t → t < now := by
  cases h : e.expiresAt <;> simp [timeLeft?, h]

/-- No time is left if the entry is expired or never will be, and the time that is left otherwise
is what the clock has to go on until the expiry. -/
structure ToldAlike (e : CacheEntry) (now : Moment) : Prop where
  none_iff : e.timeLeft? now = none ↔ e.expiresAt = none ∨ e.isExpired now = true
  of_some : ∀ d, e.timeLeft? now = some d → 0 < d.nanos ∧ e.expiresAt = some (now + d.nanos)

/-- At the expiry itself an entry is expired, and has no nanosecond left, but not `none`. At any
other moment the two agree. -/
theorem toldAlike_iff (e : CacheEntry) (now : Moment) :
    (e.ToldAlike now ↔ e.expiresAt ≠ some now) ∧
    (e.expiresAt = some now → e.isExpired now = true ∧ e.timeLeft? now = some ⟨0⟩) := by
  have hat (h : e.expiresAt = some now) : e.isExpired now = true ∧ e.timeLeft? now = some ⟨0⟩ :=
    ⟨isExpired_iff.2 ⟨now, h, Int.le_refl _⟩, timeLeft?_eq_some_iff.2 (by simpa using h)⟩
  refine ⟨⟨fun halike h => ?_, fun hne => ⟨?_, ?_⟩⟩, hat⟩
  · exact absurd (halike.of_some ⟨0⟩ (hat h).2).1 (Nat.lt_irrefl 0)
  · rw [timeLeft?_eq_none_iff, isExpired_iff]
    cases h : e.expiresAt with
    | none => simp
    | some t =>
      have hnot : t ≠ now := fun heq => hne (heq ▸ h)
      simpa using ⟨Int.le_of_lt, fun hle => Int.lt_iff_le_and_ne.2 ⟨hle, hnot⟩⟩
  · intro d hd
    have hexpiry := timeLeft?_eq_some_iff.1 hd
    refine ⟨Nat.pos_of_ne_zero fun hzero => hne ?_, hexpiry⟩
    rw [hexpiry, hzero]
    simp

/-- An entry with a second to live, of November 2023. -/
def oneSecond : CacheEntry where
  key := ⟨"T", .long 1⟩
  record := ⟨⟨.empty⟩, .empty⟩
  createdAt := 1700000000000000000
  accessedAt := 1700000000000000000
  expiresAt := some 1700000001000000000
  accessCount := 0
  version := 1

theorem toldAlike_iff_oneSecond : oneSecond.expiresAt = some 1700000001000000000 ∧
    oneSecond.isExpired 1700000001000000000 = true ∧
    oneSecond.timeLeft? 1700000001000000000 = some ⟨0⟩ ∧
    oneSecond.ToldAlike 1700000000999999999 ∧ oneSecond.ToldAlike 1700000001000000001 := by
  have h : oneSecond.expiresAt = some 1700000001000000000 := rfl
  exact ⟨h, ((toldAlike_iff oneSecond _).2 h).1, ((toldAlike_iff oneSecond _).2 h).2,
    (toldAlike_iff oneSecond _).1.2 (by decide), (toldAlike_iff oneSecond _).1.2 (by decide)⟩

/-- The expiry of a new entry is a moment at which the two differ. -/
theorem not_toldAlike :
    ¬ ∀ (now : Moment) (k : CacheKey) (r : Record) (ttl : Option Span) (e : CacheEntry),
      create? now k r ttl = some e → ∀ later, now ≤ later → e.ToldAlike later := by
  intro h
  have halike := h 1700000000000000000 ⟨"T", .long 1⟩ ⟨⟨.empty⟩, .empty⟩ (some (.ofSeconds 1))
    oneSecond (by decide) 1700000001000000000 (by decide)
  exact absurd (halike.of_some ⟨0⟩ (by decide)).1 (Nat.lt_irrefl 0)

end CacheEntry

end KeyedRecords
