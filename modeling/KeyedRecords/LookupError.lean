import KeyedRecords.Calendar.Span
import KeyedRecords.ConnectFault
import KeyedRecords.Service.Phase

/-!
What can go wrong in a lookup, by cause, and the text of each failure. Finding nothing is no
failure. Some texts are not this library's to choose and are left out.
-/

namespace KeyedRecords

/-- What is wrong with a setting. -/
inductive SettingFault where
  | said (text : String)
  | invalidIdentifier (role name : String)
  | missing (property : String)
  | notANumber (property text : String)
  | notABoolean (property text : String)
  | notAPeriod (text : String)
  | noFields
  | emptyWhereClause
  | emptyKeyName
  | expirationTooLong (ttl : Span)
  deriving DecidableEq

def SettingFault.text : SettingFault → String
  | .said text => text
  | .invalidIdentifier role name => role ++ " `" ++ name ++ "` is not a valid identifier"
  | .missing property => "missing required property `" ++ property ++ "`"
  | .notANumber property text =>
    property ++ " must be a non-negative integer, got `" ++ text ++ "`"
  | .notABoolean property text =>
    property ++ " must be `true` or `false`, got `" ++ text ++ "`"
  | .notAPeriod text => "`" ++ text ++ "` is not a valid time period"
  | .noFields => "field list must name at least one field"
  | .emptyWhereClause => "where clause must not be empty"
  | .emptyKeyName => "lookup key name must not be empty"
  | .expirationTooLong ttl => "cache expiration " ++ ttl.text ++ " is out of range"

/-- Why an argument has no slot. -/
inductive BindFault where
  | said (text : String)
  | outOfRange (name : String)
  | repeated
  | outOfOrder (expected : Nat)
  deriving DecidableEq

def BindFault.text : BindFault → String
  | .said text => text
  | .outOfRange name => "argument name `" ++ name ++ "` is out of range"
  | .repeated => "argument position given more than once"
  | .outOfOrder expected =>
    "parameters must be bound in order, expected slot " ++ Text.decimal expected

/-- Failures of a store that its driver did not report. -/
inductive StoreFault where
  | said (text : String)
  | unconvertible (kind : String)
  | connect (target : String) (fault : ConnectFault)
  deriving DecidableEq

def StoreFault.text : StoreFault → String
  | .said text => text
  | .unconvertible kind => "Cannot convert " ++ kind ++ " value: conversion error"
  | .connect target fault => "Failed to connect to " ++ target ++ ": " ++ fault.text

/-- Failures that the driver of a graph reports. -/
inductive DriverFault where
  | connection
  | conversion
  | badSettings
  | authentication (text : String)
  | server (code text : String)
  deriving DecidableEq

def DriverFault.text : DriverFault → String
  | .connection => "connection error"
  | .conversion => "conversion error"
  | .badSettings => "invalid config"
  | .authentication text => text
  | .server code text => "Neo4j error `" ++ code ++ "`: " ++ text

/-- Why a row of a graph query cannot be read. -/
inductive DecodeFault where
  | said (text : String)
  | noSuchProperty
  | notANode
  deriving DecidableEq

def DecodeFault.text? : DecodeFault → Option String
  | .said text => some text
  | .noSuchProperty => some "The property does not exist"
  | .notANode => none

/-- Why a text is no statement that can be run. -/
inductive GrammarFault where
  /-- A token that may not stand where it does. -/
  | near (token : String)
  | unrecognized (token : String)
  | incomplete
  | tooDeep
  | tooManyColumns
  /-- A statement of another kind than those of lookups. -/
  | beyond
  deriving DecidableEq

def GrammarFault.text? : GrammarFault → Option String
  | .near token => some ("near \"" ++ token ++ "\": syntax error")
  | .unrecognized token => some ("unrecognized token: \"" ++ token ++ "\"")
  | .incomplete => some "incomplete input"
  | .tooDeep => some "Expression tree is too large (maximum depth 1000)"
  | .tooManyColumns => some "too many columns in result set"
  | .beyond => none

/-- Why a row cannot be inserted in a table. -/
inductive RowFault where
  | wrongWidth (columns cells : Nat)
  /-- The number of the row is not an integer. -/
  | badNumber
  | missing (column : String)
  /-- Another row has the same cell; `isKey` tells the column that is the key of the table. -/
  | repeated (column : String) (isKey : Bool)
  deriving DecidableEq

def RowFault.code : RowFault → Nat
  | .wrongWidth _ _ => 1
  | .badNumber => 20
  | .missing _ => 1299
  | .repeated _ isKey => if isKey then 1555 else 2067

def RowFault.text (table : String) : RowFault → String
  | .wrongWidth columns cells =>
    "table " ++ table ++ " has " ++ Text.decimal columns ++ " columns but " ++
      Text.decimal cells ++ " values were supplied"
  | .badNumber => "datatype mismatch"
  | .missing column => "NOT NULL constraint failed: " ++ table ++ "." ++ column
  | .repeated column _ => "UNIQUE constraint failed: " ++ table ++ "." ++ column

/-- Failures of a relational database. -/
inductive DatabaseFault where
  | rowNotFound
  | poolTimedOut
  | poolClosed
  | columnNotFound (text : String)
  | protocol (text : String)
  | noSuchTable (name : String)
  | noSuchColumn (name : String)
  /-- No rows can be put in the table. -/
  | fixedRows (table : String)
  /-- The table cannot be dropped. -/
  | fixedTable (table : String)
  | undecodable (column : String)
  | grammar (fault : GrammarFault)
  | row (table : String) (fault : RowFault)
  deriving DecidableEq

def DatabaseFault.text? : DatabaseFault → Option String
  | .rowNotFound =>
    some "no rows returned by a query that expected to return at least one row"
  | .poolTimedOut => some "pool timed out while waiting for an open connection"
  | .poolClosed => some "attempted to acquire a connection on a closed pool"
  | .columnNotFound text => some ("no column found for name: " ++ text)
  | .protocol text => some ("encountered unexpected or invalid data: " ++ text)
  | .noSuchTable name => some (reported 1 ("no such table: " ++ name))
  | .noSuchColumn name => some (reported 1 ("no such column: " ++ name))
  | .fixedRows table => some (reported 1 ("table " ++ table ++ " may not be modified"))
  | .fixedTable table => some (reported 1 ("table " ++ table ++ " may not be dropped"))
  | .undecodable _ => none
  | .grammar fault => fault.text?.map (reported 1)
  | .row table fault => some (reported fault.code (fault.text table))

/-- What a service looks records up in. -/
inductive Backend where
  | objectStore
  | database
  deriving DecidableEq

def Backend.name : Backend → String
  | .objectStore => "object store"
  | .database => "database"

inductive LookupError where
  | setting (fault : SettingFault)
  | initialization (text : String)
  /-- The backend did not answer when a service was to be enabled. -/
  | unreachable (backend : Backend) (source : LookupError)
  | unsupportedType (tag : String) (field : Option String)
  | argument (position : Nat) (fault : BindFault)
  | store (fault : StoreFault)
  | timeout (millis : Nat) (context : String)
  | notReady (phase : Phase)
  /-- Running a statement for a key failed. -/
  | statement (query key : String) (source : LookupError)
  | driver (fault : DriverFault)
  | decode (fault : DecodeFault)
  | database (fault : DatabaseFault)
  | other (text : String)
  deriving DecidableEq

namespace LookupError

/-- The text of the failure, unless it rests on a text that is not this library's to choose. -/
def message? : LookupError → Option String
  | setting fault => some ("Configuration error: " ++ fault.text)
  | initialization text => some ("Initialization error: " ++ text)
  | unreachable backend source => source.message?.map fun text =>
    "Initialization error: " ++ backend.name ++ " unreachable: " ++ text
  | unsupportedType tag none => some ("Unsupported type `" ++ tag ++ "`")
  | unsupportedType tag (some field) =>
    some ("Unsupported type `" ++ tag ++ "` for field `" ++ field ++ "`")
  | argument position fault =>
    some ("Cannot bind argument at position " ++ Text.decimal position ++ ": " ++ fault.text)
  | store fault => some ("Backing store error: " ++ fault.text)
  | timeout millis context =>
    some ("Operation timed out after " ++ Text.decimal millis ++ "ms: " ++ context)
  | notReady phase => some ("Lookup service is not ready (state: " ++ phase.name ++ ")")
  | statement query key source => source.message?.map fun text =>
    "Error executing statement `" ++ query ++ "` for value " ++ key ++ ": " ++ text
  | driver fault => some ("Neo4rs driver error: " ++ fault.text)
  | decode fault => fault.text?.map ("Neo4rs decoding error: " ++ ·)
  | database fault => fault.text?.map ("Database error: " ++ ·)
  | other text => some ("Error: " ++ text)

/-- The text of what a failure passes on, where it passes anything on. -/
def cause? : LookupError → Option String
  | statement _ _ source => source.message?
  | driver fault => some fault.text
  | decode fault => fault.text?
  | database fault => fault.text?
  | _ => none

/-- Whether a service stays disabled until its settings change. -/
def isConfiguration : LookupError → Bool
  | setting _ | initialization _ | unreachable _ _ => true
  | _ => false

/-- Whether the failure comes from the store or the database. -/
def isBackingStore : LookupError → Bool
  | store _ | timeout _ _ | driver _ | decode _ | database _ => true
  | statement _ _ source => source.isBackingStore
  | _ => false

end LookupError

end KeyedRecords
