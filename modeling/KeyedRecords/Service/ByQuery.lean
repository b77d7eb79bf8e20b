import KeyedRecords.Cache.SchemaSlot
import KeyedRecords.Service.Lifecycle
import KeyedRecords.Settings.Lookup
import KeyedRecords.Store.Contract

/-!
Lookup by query: a statement finds the key of an object, and the object under the first key found
becomes a record.
-/

namespace KeyedRecords

/-- What an enabled lookup by query holds. -/
structure QueryResources where
  settings : QuerySettings
  statement : String
  /-- The column in which the keys come back. -/
  column : String
  schemas : SchemaSlot
  deriving DecidableEq

abbrev QueryLookup := Lifecycle QueryResources

namespace QueryLookup

variable {σ : Type}

def requiredKeys : List String := []

def resources (dialect : Dialect) (settings : QuerySettings) : QueryResources where
  settings
  statement := settings.query.text dialect
  column := settings.query.resultColumn dialect
  schemas := .empty

/-- The settings are checked before the store is asked whether it is there. -/
def enable (store : ObjectStore σ) (settings : QuerySettings) (service : QueryLookup) (s : σ) :
    Served QueryLookup σ Unit :=
  match settings.check with
  | .error e =>
    let (outcome, service) := Lifecycle.enable service fun _ => .error e
    ⟨[], outcome, service, s⟩
  | .ok () =>
    let (ping, s) := store.ping s
    let (outcome, service) := Lifecycle.enable service fun _ =>
      (reached .objectStore ping).map fun _ => resources store.dialect settings
    ⟨[.ping], outcome, service, s⟩

/-- The record of the object under a key that the query found. -/
def fetch (store : ObjectStore σ) (r : QueryResources) (key : Value) (token : Option String)
    (service : QueryLookup) (s : σ) : Served QueryLookup σ (Option Record) :=
  let call := Call.get r.settings.cacheName key
  match store.get s r.settings.cacheName key with
  | (.error e, s) => ⟨[call], .error e, service, s⟩
  | (.ok none, s) => ⟨[call], .ok none, service, s⟩
  | (.ok (some o), s) =>
    let (schema, slot) := r.schemas.resolve store.vocabulary r.settings.fields token o.view
    ⟨call :: schema.calls, schema.outcome.map fun schema => some (.build o.view schema),
      service.update { r with schemas := slot }, s⟩

def lookup (store : ObjectStore σ) (coordinates : Coordinates) (context : Context)
    (service : QueryLookup) (s : σ) : Served QueryLookup σ (Option Record) :=
  match service.read with
  | .error e => ⟨[], .error e, service, s⟩
  | .ok r =>
    match Arguments.extract coordinates with
    | .error e => ⟨[], .error e, service, s⟩
    | .ok args =>
      let call := Call.query r.statement r.column args
      match store.queryKeys s r.statement r.column args with
      | (.error e, s) => ⟨[call], .error e, service, s⟩
      | (.ok [], s) => ⟨[call], .ok none, service, s⟩
      | (.ok (key :: _), s) =>
        let found := fetch store r key (correlationToken? context) service s
        { found with calls := call :: found.calls }

end QueryLookup

end KeyedRecords
