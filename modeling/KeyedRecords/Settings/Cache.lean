import KeyedRecords.Json
import KeyedRecords.LookupError

/-!
Settings of the record cache.
-/

namespace KeyedRecords

structure CacheSettings where
  /-- The greatest number of records; none are kept when it is zero. -/
  capacity : Nat := 0
  /-- The lifetime of an entry, fixed when its key is first stored. -/
  ttl : Option Span := none
  /-- Whether enabling the service again drops the records. -/
  clearOnEnable : Bool := true
  deriving DecidableEq

namespace CacheSettings

def disabled : CacheSettings := {}

def bounded (capacity : Nat) : CacheSettings := { capacity }

def isEnabled (c : CacheSettings) : Bool := 0 < c.capacity

/-- A lifetime of zero stands for no limit. -/
def effectiveTtl (c : CacheSettings) : Option Span := c.ttl.filter fun ttl => !ttl.isZero

def fault? (c : CacheSettings) : Option SettingFault :=
  match c.effectiveTtl with
  | some ttl => if ttl.nanos ≤ Span.longest.nanos then none else some (.expirationTooLong ttl)
  | none => none

def check (c : CacheSettings) : Except LookupError Unit :=
  match c.fault? with
  | some fault => .error (.setting fault)
  | none => .ok ()

def json (c : CacheSettings) : Json :=
  .object [
    ("capacity", .integer c.capacity),
    ("ttl", .ofOption (fun ttl => .object [
      ("secs", .integer ttl.seconds), ("nanos", .integer ttl.subsecond)]) c.ttl),
    ("clear_on_enable", .boolean c.clearOnEnable)]

end CacheSettings

end KeyedRecords
