import KeyedRecords.Cache.Key
import KeyedRecords.Record.Basic

/-!
Entries of the record cache. The expiry of an entry is fixed when the entry is created; neither
reading it nor replacing its record moves it.
-/

namespace KeyedRecords

structure CacheEntry where
  key : CacheKey
  record : Record
  createdAt : Moment
  accessedAt : Moment
  /-- The first moment at which the entry is expired, if it ever is. -/
  expiresAt : Option Moment
  /-- How often the entry was read. -/
  accessCount : Nat
  /-- How often a record was stored in the entry. -/
  version : Nat
  deriving DecidableEq

namespace CacheEntry

/-- The expiry of an entry created at `now`. A span that no clock can be moved by gives none; `none`
as a whole says that the expiry lies past the last moment. -/
def expiry? (now : Moment) : Option Span → Option (Option Moment)
  | none => some none
  | some ttl =>
    if Span.longest.nanos < ttl.nanos then some none
    else if now + ttl.nanos ≤ Instant.lastMoment then some (some (now + ttl.nanos))
    else none

def create? (now : Moment) (key : CacheKey) (record : Record) (ttl : Option Span) :
    Option CacheEntry :=
  (expiry? now ttl).map fun expiresAt =>
    { key, record, createdAt := now, accessedAt := now, expiresAt, accessCount := 0, version := 1 }

def isExpired (e : CacheEntry) (now : Moment) : Bool :=
  match e.expiresAt with
  | some t => t ≤ now
  | none => false

/-- The time left until the expiry, zero at the expiry itself and none after it. -/
def timeLeft? (e : CacheEntry) (now : Moment) : Option Span :=
  match e.expiresAt with
  | some t => if now ≤ t then some ⟨(t - now).toNat⟩ else none
  | none => none

def accessed (e : CacheEntry) (now : Moment) : CacheEntry :=
  { e with accessedAt := now, accessCount := e.accessCount + 1 }

def replaced (e : CacheEntry) (record : Record) : CacheEntry :=
  { e with record, version := e.version + 1 }

theorem create?_eq_none_iff {now : Moment} {key : CacheKey} {record : Record} {ttl : Option Span} :
    create? now key record ttl = none ↔ expiry? now ttl = none := by
  simp [create?]

theorem of_create? {now : Moment} {key : CacheKey} {record : Record} {ttl : Option Span}
    {e : CacheEntry} (h : create? now key record ttl = some e) :
    e.key = key ∧ e.record = record ∧ expiry? now ttl = some e.expiresAt := by
  obtain ⟨t, ht, rfl⟩ := Option.map_eq_some_iff.1 h
  exact ⟨rfl, rfl, ht⟩

@[simp] theorem expiresAt_accessed (e : CacheEntry) (now : Moment) :
    (e.accessed now).expiresAt = e.expiresAt := rfl

@[simp] theorem expiresAt_replaced (e : CacheEntry) (record : Record) :
    (e.replaced record).expiresAt = e.expiresAt := rfl

end CacheEntry

end KeyedRecords
