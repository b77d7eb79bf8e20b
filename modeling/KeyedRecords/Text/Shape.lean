import KeyedRecords.Text.MarkTable
import KeyedRecords.Text.Range
import KeyedRecords.Text.ShapeTable

/-!
Which characters can be seen, and which belong to the character in front of them.
-/

namespace KeyedRecords.Text

/-- Whether a character has no shape of its own. -/
def isShapeless (c : Char) : Bool := inRanges shapelessRanges c

/-- Whether a character is a mark without a width of its own. -/
def isMark (c : Char) : Bool := inRanges markRanges c

def isSpacingMark (c : Char) : Bool := inRanges spacingMarkRanges c

/-- Whether a character extends the one in front of it to one that is seen as a whole. -/
def isExtender (c : Char) : Bool := isMark c || inRanges extenderRanges c

end KeyedRecords.Text
