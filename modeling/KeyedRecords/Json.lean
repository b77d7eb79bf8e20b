import KeyedRecords.Number.Layout
import KeyedRecords.Text.Quoted

/-!
JSON values and their compact text. Members are written in the order in which they stand.
-/

namespace KeyedRecords

inductive Json where
  | null
  | boolean (b : Bool)
  | integer (n : Int)
  | double (x : Double)
  | string (s : String)
  | array (items : List Json)
  | object (members : List (String × Json))

namespace Json

/-- Infinities and NaN have no JSON number. -/
def doubleText (x : Double) : String := if x.isFinite then x.text .json else "null"

mutual

def text : Json → String
  | .null => "null"
  | .boolean b => if b then "true" else "false"
  | .integer n => Text.signedDecimal n
  | .double x => doubleText x
  | .string s => Text.quoted s
  | .array items => "[" ++ ",".intercalate (itemTexts items) ++ "]"
  | .object members => "\x7b" ++ ",".intercalate (memberTexts members) ++ "\x7d"

def itemTexts : List Json → List String
  | [] => []
  | item :: rest => item.text :: itemTexts rest

def memberTexts : List (String × Json) → List String
  | [] => []
  | (name, item) :: rest => (Text.quoted name ++ ":" ++ item.text) :: memberTexts rest

end

def ofOption {α : Type} (f : α → Json) : Option α → Json
  | some a => f a
  | none => .null

end Json

end KeyedRecords
