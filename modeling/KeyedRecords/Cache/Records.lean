import KeyedRecords.Cache.Entry
import KeyedRecords.Cache.Stats
import KeyedRecords.Keyed
import KeyedRecords.Settings.Cache

/-!
The record cache: at most `capacity` records, each for a fixed lifetime. A record that is asked for
and not there is not fetched; who misses it stores it. When room is needed, expired entries go
first, and else the least recently used one.
-/

namespace KeyedRecords

structure RecordCache where
  settings : CacheSettings
  entries : Keyed CacheKey CacheEntry
  /-- The keys from the least to the most recently used. -/
  recency : List CacheKey
  stats : CacheStats
  deriving DecidableEq

namespace RecordCache

def new (settings : CacheSettings) : RecordCache := ⟨settings, .empty, [], {}⟩

def size (c : RecordCache) : Nat := c.entries.size

def isEmpty (c : RecordCache) : Bool := c.entries.isEmpty

/-- Counts the entries anew. -/
def recount (c : RecordCache) : RecordCache :=
  { c with stats := { c.stats with entries := c.size } }

/-- Without the entries for which `p` holds, and with the entries counted anew. -/
def without (c : RecordCache) (p : CacheKey → Bool) : RecordCache :=
  { c with
    entries := c.entries.filter fun e => !p e.1
    recency := c.recency.filter fun k => !p k }.recount

/-- Makes `k` the most recently used key. -/
def touch (c : RecordCache) (k : CacheKey) : RecordCache :=
  { c with recency := c.recency.filter (· ≠ k) ++ [k] }

def countMiss (c : RecordCache) : RecordCache :=
  { c with stats := { c.stats with misses := c.stats.misses + 1 } }

def countHit (c : RecordCache) : RecordCache :=
  { c with stats := { c.stats with hits := c.stats.hits + 1 } }

def countExpired (c : RecordCache) (n : Nat) : RecordCache :=
  { c with stats := { c.stats with evictionsTtl := c.stats.evictionsTtl + n } }

def countInvalid (c : RecordCache) (n : Nat) : RecordCache :=
  { c with stats := { c.stats with invalidations := c.stats.invalidations + n } }

/-- Drops the entry of `k`, which is expired. -/
def dropExpired (c : RecordCache) (k : CacheKey) : RecordCache :=
  (c.without (· = k)).countExpired 1

/-- The live record of `k`. An expired one is dropped. -/
def get (c : RecordCache) (now : Moment) (k : CacheKey) : Option Record × RecordCache :=
  if !c.settings.isEnabled then (none, c.countMiss)
  else match c.entries.get? k with
    | none => (none, c.countMiss)
    | some e =>
      if e.isExpired now then (none, (c.dropExpired k).countMiss)
      else
        let c := { c with entries := c.entries.insert k (e.accessed now) }
        (some e.record, (c.touch k).countHit)

def expiredKeys (c : RecordCache) (now : Moment) : List CacheKey :=
  (c.entries.pairs.filter fun p => p.2.isExpired now).map (·.1)

/-- Drops all expired entries and tells how many they were. -/
def purge (c : RecordCache) (now : Moment) : Nat × RecordCache :=
  match c.expiredKeys now with
  | [] => (0, c)
  | keys => (keys.length, (c.without keys.contains).countExpired keys.length)

/-- Drops entries in the order of a queue of keys until fewer than `capacity` are left: the entries
left, the rest of the queue, and how many were dropped. -/
def dropOldest (capacity : Nat) (entries : Keyed CacheKey CacheEntry) :
    List CacheKey → Keyed CacheKey CacheEntry × List CacheKey × Nat
  | [] => (entries, [], 0)
  | k :: rest =>
    if entries.size < capacity then (entries, k :: rest, 0)
    else
      let (entries, left, n) := dropOldest capacity (entries.erase k) rest
      (entries, left, n + 1)

/-- Drops the least recently used entries until there is room for one more. The number of entries is
counted again only when the new one is there. -/
def evict (c : RecordCache) : RecordCache :=
  let (entries, recency, n) := dropOldest c.settings.capacity c.entries c.recency
  { c with
    entries, recency
    stats := { c.stats with evictionsCapacity := c.stats.evictionsCapacity + n } }

/-- Makes room for one more entry. -/
def makeRoom (c : RecordCache) (now : Moment) : RecordCache :=
  if c.size < c.settings.capacity then c else (c.purge now).2.evict

/-- A cache after a record was to be stored. -/
structure Stored where
  cache : RecordCache
  /-- Whether storing broke off because the expiry of the new entry is past the last moment. What
  was dropped to make room stays dropped. -/
  overflow : Bool

/-- Stores a record under a key that has no live entry, and gives it a lifetime of its own. -/
def putNew (c : RecordCache) (now : Moment) (k : CacheKey) (r : Record) : Stored :=
  let c := c.makeRoom now
  match CacheEntry.create? now k r c.settings.effectiveTtl with
  | none => ⟨c, true⟩
  | some e =>
    ⟨{ c with entries := c.entries.insert k e, recency := c.recency ++ [k] }.recount, false⟩

/-- Stores a record. A live entry under the same key keeps its expiry. -/
def put (c : RecordCache) (now : Moment) (k : CacheKey) (r : Record) : Stored :=
  if !c.settings.isEnabled then ⟨c, false⟩
  else match c.entries.get? k with
    | none => c.putNew now k r
    | some e =>
      if e.isExpired now then (c.dropExpired k).putNew now k r
      else ⟨{ c with entries := c.entries.insert k (e.replaced r) }.touch k, false⟩

/-- The record of `k`, live or expired, whose entry is dropped. -/
def remove (c : RecordCache) (k : CacheKey) : Option Record × RecordCache :=
  match c.entries.get? k with
  | none => (none, c)
  | some e => (some e.record, (c.without (· = k)).countInvalid 1)

/-- Drops all entries and tells how many they were. -/
def clear (c : RecordCache) : Nat × RecordCache :=
  (c.size, { c with entries := .empty, recency := [] }.recount.countInvalid c.size)

end RecordCache

end KeyedRecords
