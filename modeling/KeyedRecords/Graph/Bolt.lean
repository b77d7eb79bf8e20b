import KeyedRecords.Calendar.Instant
import KeyedRecords.Keyed
import KeyedRecords.LookupError
import KeyedRecords.Record.Object

/-!
Values of a graph and of the parameters sent to it, and what they are as field values.
-/

namespace KeyedRecords

/-- Kinds of graph values that have no field value. -/
inductive OpaqueKind where
  | bytes
  | list
  | node
  | relation
  | unboundedRelation
  | path
  | point2D
  | point3D
  | duration
  | date
  | time
  | localTime
  deriving DecidableEq

def OpaqueKind.tag : OpaqueKind → String
  | bytes => "Bytes"
  | list => "List"
  | node => "Node"
  | relation => "Relation"
  | unboundedRelation => "UnboundedRelation"
  | path => "Path"
  | point2D => "Point2D"
  | point3D => "Point3D"
  | duration => "Duration"
  | date => "Date"
  | time => "Time"
  | localTime => "LocalTime"

def OpaqueKind.ofTag? (tag : String) : Option OpaqueKind :=
  [bytes, list, node, relation, unboundedRelation, path, point2D, point3D, duration, date, time,
    localTime].find? (·.tag == tag)

inductive Bolt where
  | null
  | string (s : String)
  | integer (n : Int64)
  | float (x : Double)
  | boolean (b : Bool)
  /-- The reading of a local clock, in seconds, and the seconds it is ahead of universal time. -/
  | dateTime (localSecond nanos offset : Int)
  | localDateTime (second nanos : Int)
  /-- The reading of the clock of a named zone. -/
  | dateTimeZoneId (localSecond nanos : Int) (zone : String)
  | map (members : List (String × Bolt))
  | other (kind : OpaqueKind)

/-- The clocks of the named time zones. The graph leaves it open which zones there are and how their
clocks are set. -/
structure ZoneClocks where
  /-- The instant at which the clock of a zone shows a reading, if the reading is one and the clock
  shows it at some instant. -/
  instant? (localSecond nanos : Int) (zone : String) : Option Instant

namespace Bolt

instance : Inhabited Bolt := ⟨null⟩

/-- The kind of a value, which is the type tag of a property that holds it. -/
def tag : Bolt → String
  | null => "Null"
  | string _ => "String"
  | integer _ => "Integer"
  | float _ => "Float"
  | boolean _ => "Boolean"
  | dateTime _ _ _ => "DateTime"
  | localDateTime _ _ => "LocalDateTime"
  | dateTimeZoneId _ _ _ => "DateTimeZoneId"
  | map _ => "Map"
  | other kind => kind.tag

/-- The instant of a second and of nanoseconds, of which the lowest 32 bits count. -/
def instant? (second nanos : Int) : Option Instant :=
  Instant.ofParts? second (nanos % 4294967296).toNat

/-- The instant of a local reading. The lowest 32 bits of the offset have to be less than a day. -/
def dateTimeInstant? (localSecond nanos offset : Int) : Option Instant :=
  if (offset.bmod 4294967296).natAbs < 86400 then instant? (localSecond - offset) nanos else none

/-- The field value of a graph value; kinds without one give null. A time that denotes no instant is
a failure, since its tag still promises one. -/
def value (clocks : ZoneClocks) (b : Bolt) : Except LookupError Value :=
  let time (instant : Option Instant) : Except LookupError Value :=
    match instant with
    | some t => .ok (.timestamp t)
    | none => .error (.store (.unconvertible b.tag))
  match b with
  | string s => .ok (.string s)
  | integer n => .ok (.long n)
  | float x => .ok (.double x)
  | boolean b => .ok (.boolean b)
  | dateTime localSecond nanos offset => time (dateTimeInstant? localSecond nanos offset)
  | localDateTime second nanos => time (instant? second nanos)
  | dateTimeZoneId localSecond nanos zone => time (clocks.instant? localSecond nanos zone)
  | null | map _ | other _ => .ok .null

/-- The parameter that carries a field value. -/
def ofValue : Value → Bolt
  | .null => null
  | .string s => string s
  | .long n => integer n
  | .int n => integer n.toInt64
  | .byte n => integer n.toInt64
  | .boolean b => boolean b
  | .double x => float x
  | .timestamp t => dateTime t.seconds t.nanos 0

end Bolt

/-- The properties of a node, in whatever order. -/
abbrev Node := Keyed String Bolt

namespace Node

/-- The properties in the order of their names. -/
def sorted (n : Node) : List (String × Bolt) := n.pairs.mergeSort fun a b => a.1 ≤ b.1

def addTo (clocks : ZoneClocks) (o : TaggedObject) (p : String × Bolt) :
    Except LookupError TaggedObject :=
  match p.2.value clocks with
  | .ok v => .ok (o.setField p.1 p.2.tag v)
  | .error e => .error e

/-- The node as an object, each property tagged with its kind. -/
def object (clocks : ZoneClocks) (scope : String) (n : Node) : Except LookupError TaggedObject :=
  n.sorted.foldlM (addTo clocks) (.new scope)

end Node

end KeyedRecords
