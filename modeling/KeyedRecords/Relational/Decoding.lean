import KeyedRecords.Calendar.Reading
import KeyedRecords.Relational.Column

/-!
Decoding cells by their kind. Truth values are stored as numbers, and an instant as a text, as a
count of seconds or as a day number.
-/

namespace KeyedRecords

namespace Cell

/-- The instant of a day number, counted from noon of the first day of the year -4712. -/
def ofDayNumber? (x : Double) : Option Instant :=
  if !x.isFinite then none
  else
    let second := (x.sub (.ofRatio false 24405875 10)).mul (.ofInt 86400)
    if !second.isFinite then none
    else
      let whole := second.scaled.truncate
      let fraction := (second.sub (.ofScaled ⟨whole, 0⟩)).mul (.ofInt 1000000000)
      Instant.ofParts? whole fraction.scaled.truncate.natAbs

def text? : Cell → Option String
  | .text s => some s
  | _ => none

def integer? : Cell → Option Int64
  | .integer n => some n
  | _ => none

def real? : Cell → Option Double
  | .real x => some x
  | _ => none

def instant? : Cell → Option Instant
  | .text s => Reading.instant? s
  | .integer n => Instant.ofParts? n.toInt 0
  | .real x => ofDayNumber? x
  | _ => none

end Cell

/-- A cell that was not found to be of the kind is a fault. -/
def ResultCell.orFault {α : Type} (r : ResultCell) (found : Option α) : Except DatabaseFault α :=
  found.elim (.error (.undecodable r.name)) .ok

/-- Decodes cells only to what their kinds stand for; no kind is converted to another. -/
def CellDecoder.byKind : CellDecoder where
  text r := r.orFault r.cell.text?
  integer r := r.orFault r.cell.integer?
  real r := r.orFault r.cell.real?
  boolean r := r.orFault (r.cell.integer?.map (· != 0))
  instant r := r.orFault r.cell.instant?

end KeyedRecords
