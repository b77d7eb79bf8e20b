import KeyedRecords.Query.Coordinates
import KeyedRecords.Query.Identifier
import KeyedRecords.Query.Statement
import KeyedRecords.Settings.Cache
import KeyedRecords.Settings.Items
import KeyedRecords.Settings.Period
import KeyedRecords.Settings.Properties

/-!
Settings of the three lookup services, and how they are read from properties.
-/

namespace KeyedRecords

/-- How record schemas are found in a lookup by key. -/
inductive SchemaPolicy where
  /-- One schema for all lookups with the same correlation token. -/
  | perCorrelation
  /-- A schema from each object, with all its fields. -/
  | perLookup
  deriving DecidableEq

def SchemaPolicy.name : SchemaPolicy → String
  | perCorrelation => "per_correlation"
  | perLookup => "per_lookup"

def SchemaPolicy.ofName? (s : String) : Option SchemaPolicy :=
  [perCorrelation, perLookup].find? (·.name == s)

/-- A list of fields to return has to name one. -/
def checkFields : Option (List String) → Except LookupError Unit
  | some [] => .error (.setting .noFields)
  | _ => .ok ()

def checkWhereClause (clause : String) : Except LookupError Unit :=
  if Text.allBlank clause then .error (.setting .emptyWhereClause) else .ok ()

def fieldsJson (fields : Option (List String)) : Json :=
  .ofOption (fun names => .array (names.map .string)) fields

/-- Settings of a lookup by key. -/
structure KeySettings where
  /-- Where the objects are: a cache, a label or the like. -/
  cacheName : String := ""
  /-- The fields to return; all of them if there is no list. -/
  fields : Option (List String) := none
  schemaPolicy : SchemaPolicy := .perCorrelation
  deriving DecidableEq

namespace KeySettings

def check (c : KeySettings) : Except LookupError Unit := do
  Identifier.check "cache name" c.cacheName
  checkFields c.fields

def ofProperties (ps : Properties) : Except LookupError KeySettings := do
  let cacheName ← ps.required Properties.cacheName
  let c : KeySettings :=
    { cacheName, fields := (ps.optional? Properties.fieldNames).map Items.parse }
  c.check
  pure c

def json (c : KeySettings) : Json :=
  .object [("cache_name", .string c.cacheName), ("fields", fieldsJson c.fields),
    ("schema_policy", .string c.schemaPolicy.name)]

end KeySettings

/-- Settings of a lookup by query. -/
structure QuerySettings where
  cacheName : String := ""
  fields : Option (List String) := none
  /-- The column that holds the key of an object. -/
  keyColumn : String := ""
  /-- A condition with placeholders for the arguments. -/
  whereClause : String := ""
  deriving DecidableEq

namespace QuerySettings

def check (c : QuerySettings) : Except LookupError Unit := do
  Identifier.check "cache name" c.cacheName
  Identifier.check "key column" c.keyColumn
  checkFields c.fields
  checkWhereClause c.whereClause

def ofProperties (ps : Properties) : Except LookupError QuerySettings := do
  let cacheName ← ps.required Properties.cacheName
  let keyColumn ← ps.required Properties.keyColumn
  let whereClause ← ps.required Properties.whereClause
  let fields := (ps.optional? Properties.fieldNames).map Items.parse
  let c : QuerySettings := { cacheName, fields, keyColumn, whereClause }
  c.check
  pure c

def query (c : QuerySettings) : KeyQuery := ⟨c.cacheName, c.keyColumn, c.whereClause⟩

def json (c : QuerySettings) : Json :=
  .object [("cache_name", .string c.cacheName), ("fields", fieldsJson c.fields),
    ("key_column", .string c.keyColumn), ("where_clause", .string c.whereClause)]

end QuerySettings

/-- Settings of a lookup in a table. -/
structure RowSettings where
  tableName : String := ""
  /-- The columns to select; all of them if none is given. -/
  valueColumns : List String := []
  whereClause : String := ""
  /-- The coordinate under which a row is kept. -/
  keyName : String := keyCoordinate
  cache : CacheSettings := .disabled
  deriving DecidableEq

namespace RowSettings

def checkColumns : List String → Except LookupError Unit
  | [] => .ok ()
  | column :: rest => do
    Identifier.check "value column" column
    checkColumns rest

def check (c : RowSettings) : Except LookupError Unit := do
  Identifier.check "table name" c.tableName
  checkColumns c.valueColumns
  checkWhereClause c.whereClause
  if Text.allBlank c.keyName then throw (.setting .emptyKeyName)
  c.cache.check

def ttlOf (ps : Properties) : Except LookupError (Option Span) :=
  match ps.optional? Properties.expiration with
  | none => .ok none
  | some text => (Period.parse text).map some

def ofProperties (ps : Properties) : Except LookupError RowSettings := do
  let capacity ← ps.count Properties.cacheSize
  let clearOnEnable ← ps.flag Properties.clearOnEnable
  let ttl ← ttlOf ps
  let tableName ← ps.required Properties.tableName
  let valueColumns := ((ps.optional? Properties.valueColumns).map Items.parse).getD []
  let whereClause ← ps.required Properties.whereClause
  let keyName := (ps.optional? Properties.keyName).getD keyCoordinate
  let c : RowSettings :=
    { tableName, valueColumns, whereClause, keyName, cache := { capacity, ttl, clearOnEnable } }
  c.check
  pure c

def query (c : RowSettings) : RowQuery := ⟨c.tableName, c.valueColumns, c.whereClause⟩

def json (c : RowSettings) : Json :=
  .object [("table_name", .string c.tableName),
    ("value_columns", .array (c.valueColumns.map .string)),
    ("where_clause", .string c.whereClause), ("key_name", .string c.keyName),
    ("cache", c.cache.json)]

end RowSettings

end KeyedRecords
