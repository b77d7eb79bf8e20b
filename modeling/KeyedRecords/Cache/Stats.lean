import KeyedRecords.Json

/-!
Counters of the record cache.
-/

namespace KeyedRecords

structure CacheStats where
  hits : Nat := 0
  misses : Nat := 0
  /-- The entries there are. -/
  entries : Nat := 0
  /-- Entries that were dropped to make room. -/
  evictionsCapacity : Nat := 0
  /-- Entries that were found expired and dropped. -/
  evictionsTtl : Nat := 0
  /-- Entries that were removed or cleared. -/
  invalidations : Nat := 0
  deriving DecidableEq

namespace CacheStats

/-- Hits in a hundred gets. Each of the steps from the counters to the percentage is rounded. -/
def hitRate (s : CacheStats) : Double :=
  let total := s.hits + s.misses
  if total = 0 then .ofInt 0 else ((Double.ofInt s.hits).div (.ofInt total)).mul (.ofInt 100)

def totalEvictions (s : CacheStats) : Nat := s.evictionsCapacity + s.evictionsTtl

def text (s : CacheStats) : String :=
  "CacheStats \x7b hits: " ++ Text.decimal s.hits ++ ", misses: " ++ Text.decimal s.misses ++
    ", hit_rate: " ++ s.hitRate.fixedText 2 ++ "%, entries: " ++ Text.decimal s.entries ++
    ", evictions: " ++ Text.decimal s.totalEvictions ++ " \x7d"

def json (s : CacheStats) : Json :=
  .object [("hits", .integer s.hits), ("misses", .integer s.misses),
    ("entries", .integer s.entries), ("evictions_capacity", .integer s.evictionsCapacity),
    ("evictions_ttl", .integer s.evictionsTtl), ("invalidations", .integer s.invalidations)]

end CacheStats

end KeyedRecords
