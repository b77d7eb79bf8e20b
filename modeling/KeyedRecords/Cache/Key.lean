import KeyedRecords.Record.Value

/-!
Keys of cached records.
-/

namespace KeyedRecords

/-- A key within the scope, such as a table, that its record came from. -/
structure CacheKey where
  scope : String
  key : Value
  deriving DecidableEq

namespace CacheKey

def text (k : CacheKey) : String := k.scope ++ ":" ++ k.key.text

def json (k : CacheKey) : Json := .object [("scope", .string k.scope), ("key", k.key.json)]

end CacheKey

end KeyedRecords
