import KeyedRecords.Keyed
import KeyedRecords.LookupError
import KeyedRecords.Text.Blank
import KeyedRecords.Text.Case

/-!
Properties: settings given as texts by name. White space around a text does not count, and a blank
text counts as missing.
-/

namespace KeyedRecords

abbrev Properties := Keyed String String

namespace Properties

def cacheName : String := "ignite-cache-name"
def fieldNames : String := "cache-field-names"
def keyColumn : String := "key-column"
def whereClause : String := "where-clause"
def tableName : String := "dbrecord-lookup-table-name"
def valueColumns : String := "dbrecord-lookup-value-columns"
def keyName : String := "dbrecord-lookup-key-name"
def cacheSize : String := "dbrecord-lookup-cache-size"
def clearOnEnable : String := "dbrecord-lookup-clear-cache-on-enabled"
def expiration : String := "Cache Expiration"

def optional? (ps : Properties) (name : String) : Option String :=
  ((ps.get? name).map Text.trim).filter fun text => !text.isEmpty

def required (ps : Properties) (name : String) : Except LookupError String :=
  match ps.optional? name with
  | some text => .ok text
  | none => .error (.setting (.missing name))

/-- A count of at most 64 bits; zero if missing. -/
def count (ps : Properties) (name : String) : Except LookupError Nat :=
  match ps.optional? name with
  | none => .ok 0
  | some text =>
    match Text.unsigned? Text.maxWord text with
    | some n => .ok n
    | none => .error (.setting (.notANumber name text))

/-- A truth value in any case; true if missing. -/
def flag (ps : Properties) (name : String) : Except LookupError Bool :=
  match ps.optional? name with
  | none => .ok true
  | some text =>
    match Text.lower text with
    | "true" => .ok true
    | "false" => .ok false
    | _ => .error (.setting (.notABoolean name text))

end Properties

end KeyedRecords
