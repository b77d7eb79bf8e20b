import KeyedRecords.Text.CombiningTable
import KeyedRecords.Text.Range

/-!
Marks by where they are attached to the character in front of them. Marks of one class keep their
order, and those of different classes may change places.
-/

namespace KeyedRecords.Text

/-- The class of a mark; zero for a character that starts anew. -/
def combiningClass (c : Char) : Nat :=
  match combiningRanges.find? fun (_, ranges) => inRanges ranges c with
  | some (k, _) => k
  | none => 0

/-- Signs that drop a vowel and so may join two consonants. -/
def isVirama (c : Char) : Bool := combiningClass c == 9

end KeyedRecords.Text
