import KeyedRecords.Cache.SchemaSlot
import KeyedRecords.Service.Lifecycle
import KeyedRecords.Settings.Lookup
import KeyedRecords.Store.Contract

/-!
Lookup by key: the object that a store holds under the given key, as a record.
-/

namespace KeyedRecords

/-- What an enabled lookup by key holds. -/
structure KeyResources where
  settings : KeySettings
  schemas : SchemaSlot
  deriving DecidableEq

abbrev KeyLookup := Lifecycle KeyResources

namespace KeyLookup

variable {σ : Type}

def requiredKeys : List String := [keyCoordinate]

/-- The settings are checked before the store is asked whether it is there. Enabling again drops the
schema. -/
def enable (store : ObjectStore σ) (settings : KeySettings) (service : KeyLookup) (s : σ) :
    Served KeyLookup σ Unit :=
  match settings.check with
  | .error e =>
    let (outcome, service) := Lifecycle.enable service fun _ => .error e
    ⟨[], outcome, service, s⟩
  | .ok () =>
    let (ping, s) := store.ping s
    let (outcome, service) := Lifecycle.enable service fun _ =>
      (reached .objectStore ping).map fun _ => ⟨settings, .empty⟩
    ⟨[.ping], outcome, service, s⟩

/-- The record of a fetched object, and the slot afterwards. -/
def recordOf (vocabulary : Vocabulary) (r : KeyResources) (token : Option String)
    (o : TaggedObject) : Traced Record × SchemaSlot :=
  match r.settings.schemaPolicy with
  | .perCorrelation =>
    let (schema, slot) := r.schemas.resolve vocabulary r.settings.fields token o.view
    (schema.bind fun schema => pure (.build o.view schema), slot)
  | .perLookup => (inferRecord vocabulary none o.view, r.schemas)

/-- A missing or blank key finds nothing, and the store is not asked. -/
def lookup (store : ObjectStore σ) (coordinates : Coordinates) (context : Context)
    (service : KeyLookup) (s : σ) : Served KeyLookup σ (Option Record) :=
  match service.read with
  | .error e => ⟨[], .error e, service, s⟩
  | .ok r =>
    match keyValue? coordinates keyCoordinate with
    | none => ⟨[], .ok none, service, s⟩
    | some key =>
      let call := Call.get r.settings.cacheName key
      match store.get s r.settings.cacheName key with
      | (.error e, s) => ⟨[call], .error e, service, s⟩
      | (.ok none, s) => ⟨[call], .ok none, service, s⟩
      | (.ok (some o), s) =>
        let (record, slot) := recordOf store.vocabulary r (correlationToken? context) o
        ⟨call :: record.calls, record.outcome.map some,
          service.update { r with schemas := slot }, s⟩

end KeyLookup

end KeyedRecords
