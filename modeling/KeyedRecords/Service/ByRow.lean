import KeyedRecords.Cache.Records
import KeyedRecords.Service.Lifecycle
import KeyedRecords.Settings.Lookup
import KeyedRecords.Store.Contract

/-!
Lookup in a table: the first row that a statement selects, as a record. Records are kept in a cache
under the table and the key coordinate.

A lookup is made of three steps, between which others may run: asking the cache, fetching the row,
and storing its record.
-/

namespace KeyedRecords

/-- What an enabled lookup in a table holds. -/
structure RowResources where
  settings : RowSettings
  statement : String
  cache : RecordCache
  deriving DecidableEq

abbrev RowLookup := Lifecycle RowResources

namespace RowLookup

variable {σ : Type}

def requiredKeys : List String := []

/-- Whether a cache has to give way to a new one. -/
def needsNewCache (cache : RecordCache) (wanted : CacheSettings) : Bool :=
  (wanted.clearOnEnable && wanted.isEnabled) ||
    cache.settings.capacity != wanted.capacity ||
    cache.settings.effectiveTtl != wanted.effectiveTtl

/-- The cache of the service that was enabled before, if it may stay. -/
def cacheFor (previous : Option RowResources) (wanted : CacheSettings) : RecordCache :=
  match previous with
  | some r => if needsNewCache r.cache wanted then .new wanted else r.cache
  | none => .new wanted

def resources (settings : RowSettings) (previous : Option RowResources) : RowResources where
  settings
  statement := settings.query.text
  cache := cacheFor previous settings.cache

/-- The settings are checked before the database is asked whether it is there. -/
def enable (db : Database σ) (settings : RowSettings) (service : RowLookup) :
    Traced Unit × RowLookup :=
  match settings.check with
  | .error e =>
    let (outcome, service) := Lifecycle.enable service fun _ => .error e
    (⟨[], outcome⟩, service)
  | .ok () =>
    let (outcome, service) := Lifecycle.enable service fun previous =>
      (reached .database db.ping).map fun _ => resources settings previous
    (⟨[.ping], outcome⟩, service)

def stats (service : RowLookup) : Except LookupError CacheStats :=
  service.read.map fun r => r.cache.stats

/-- The outcome of a lookup. -/
inductive Answer where
  | outcome (r : Except LookupError (Option Record))
  /-- Storing the record broke off because its expiry is past the last moment. -/
  | overflow

/-- A lookup after the cache was asked. -/
inductive Asked where
  /-- The lookup is over. -/
  | answered (r : Except LookupError (Option Record))
  /-- The record has to be fetched and then stored under the key. -/
  | missed (key : CacheKey) (arguments : Arguments)

/-- Asks the cache. A missing or blank key finds nothing, and the cache is not asked. -/
def ask (coordinates : Coordinates) (now : Moment) (r : RowResources) : Asked × RecordCache :=
  match keyValue? coordinates r.settings.keyName with
  | none => (.answered (.ok none), r.cache)
  | some key =>
    match Arguments.extract coordinates with
    | .error e => (.answered (.error e), r.cache)
    | .ok args =>
      let cacheKey : CacheKey := ⟨r.settings.tableName, key⟩
      match r.cache.get now cacheKey with
      | (some record, cache) => (.answered (.ok (some record)), cache)
      | (none, cache) => (.missed cacheKey args, cache)

/-- The record of the first row that a statement selects. -/
def select (db : Database σ) (statement : String) (args : Arguments) : Traced (Option Record) := do
  let prepared ← Traced.call (.prepare statement) (db.prepare statement)
  let prepared ← (Bound.arguments db.bind prepared args).traced
  let row ← Traced.call .fetch (db.fetchFirst prepared)
  match row with
  | none => pure none
  | some o => do
    let record ← inferRecord db.vocabulary none o.view
    pure (some record)

/-- As `select`, and a failure tells the statement and the key. -/
def fetch (db : Database σ) (statement : String) (key : Value) (args : Arguments) :
    Traced (Option Record) :=
  (select db statement args).mapError (.statement statement key.text)

/-- Stores what was fetched, if anything was. -/
def keep (cache : RecordCache) (now : Moment) (key : CacheKey)
    (fetched : Except LookupError (Option Record)) : Answer × RecordCache :=
  match fetched with
  | .ok (some record) =>
    let stored := cache.put now key record
    (if stored.overflow then .overflow else .outcome fetched, stored.cache)
  | _ => (.outcome fetched, cache)

/-- A lookup whose steps follow one another at one moment: its calls, its answer and the cache
afterwards. -/
def serve (db : Database σ) (coordinates : Coordinates) (now : Moment) (r : RowResources) :
    List Call × Answer × RecordCache :=
  match ask coordinates now r with
  | (.answered outcome, cache) => ([], .outcome outcome, cache)
  | (.missed key args, cache) =>
    let fetched := fetch db r.statement key.key args
    (fetched.calls, keep cache now key fetched.outcome)

def lookup (db : Database σ) (coordinates : Coordinates) (now : Moment) (service : RowLookup) :
    List Call × Answer × RowLookup :=
  match service.read with
  | .error e => ([], .outcome (.error e), service)
  | .ok r =>
    let (calls, answer, cache) := serve db coordinates now r
    (calls, answer, service.update { r with cache })

end RowLookup

end KeyedRecords
