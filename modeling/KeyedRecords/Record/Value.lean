import KeyedRecords.Calendar.Instant
import KeyedRecords.Json
import KeyedRecords.Record.FieldType

/-!
Field values. They serve as parts of keys, so two of them are equal when they are the same: doubles
by their bits, and numbers of different width never.
-/

namespace KeyedRecords

inductive Value where
  | null
  | string (s : String)
  | long (n : Int64)
  | int (n : Int32)
  | boolean (b : Bool)
  | double (x : Double)
  | timestamp (t : Instant)
  | byte (n : Int8)
  deriving DecidableEq

namespace Value

instance : Inhabited Value := ⟨null⟩

def fieldType? : Value → Option FieldType
  | null => none
  | string _ => some .string
  | long _ => some .long
  | int _ => some .int
  | boolean _ => some .boolean
  | double _ => some .double
  | timestamp _ => some .timestamp
  | byte _ => some .byte

def isNull : Value → Bool
  | null => true
  | _ => false

/-- Null, or a string of white space only. -/
def isBlank : Value → Bool
  | null => true
  | string s => Text.allBlank s
  | _ => false

theorem fieldType?_eq_none_iff {v : Value} : v.fieldType? = none ↔ v = null := by
  cases v <;> simp [fieldType?]

def string? : Value → Option String
  | string s => some s
  | _ => none

/-- A whole number of any width. -/
def integer? : Value → Option Int64
  | long n => some n
  | int n => some n.toInt64
  | byte n => some n.toInt64
  | _ => none

def text : Value → String
  | null => "null"
  | string s => s
  | long n => Text.signedDecimal n.toInt
  | int n => Text.signedDecimal n.toInt
  | boolean b => if b then "true" else "false"
  | double x => x.plainText
  | timestamp t => t.text "+00:00"
  | byte n => Text.signedDecimal n.toInt

def json : Value → Json
  | null => .null
  | string s => .string s
  | long n => .integer n.toInt
  | int n => .integer n.toInt
  | boolean b => .boolean b
  | double x => .double x
  | timestamp t => .string (t.text "Z")
  | byte n => .integer n.toInt

end Value

end KeyedRecords
