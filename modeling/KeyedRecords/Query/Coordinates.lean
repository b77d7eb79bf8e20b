import KeyedRecords.Keyed
import KeyedRecords.Record.Value

/-!
What a lookup is given: named values, and texts that tell what it belongs to.
-/

namespace KeyedRecords

/-- Named inputs of a lookup. -/
abbrev Coordinates := Keyed String Value

/-- Named texts that come with a lookup. -/
abbrev Context := Keyed String String

/-- The coordinate that carries a single key. -/
def keyCoordinate : String := "key"

/-- The value of a coordinate, if it is there and not blank. -/
def keyValue? (coordinates : Coordinates) (name : String) : Option Value :=
  (coordinates.get? name).filter fun v => !v.isBlank

/-- What ties lookups together that see objects of one shape. -/
def correlationToken? (context : Context) : Option String := context.get? "uuid"

end KeyedRecords
