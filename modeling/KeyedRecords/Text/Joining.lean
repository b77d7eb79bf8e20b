import KeyedRecords.Text.Combining
import KeyedRecords.Text.JoiningTable
import KeyedRecords.Text.Shape

/-!
Joiners: characters without a shape that tell whether their neighbours are joined.
-/

namespace KeyedRecords.Text

def joiner : Char := '\u200d'

def nonJoiner : Char := '\u200c'

def isJoiner (c : Char) : Bool := c == joiner || c == nonJoiner

/-- Whether the first character that is no mark has a property. -/
def nextIs (property : Char → Bool) (cs : List Char) : Bool :=
  (cs.find? (!isMark ·)).any property

/-- Whether a joiner makes a difference between the characters before it, the last one first, and
those after it. -/
def joins (before : List Char) (c : Char) (after : List Char) : Bool :=
  before.head?.any isVirama ||
    c == nonJoiner && nextIs (inRanges joinsNextRanges) before &&
      nextIs (inRanges joinsPreviousRanges) after

/-- Whether all joiners make a difference; `before` has been read, the last one first. -/
def allJoin (before : List Char) : List Char → Bool
  | [] => true
  | c :: rest => (!isJoiner c || joins before c rest) && allJoin (c :: before) rest

end KeyedRecords.Text
