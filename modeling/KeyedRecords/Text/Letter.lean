import KeyedRecords.Text.LetterTable
import KeyedRecords.Text.Range

/-!
Letters and numbers of all scripts.
-/

namespace KeyedRecords.Text

def isLetter (c : Char) : Bool := inRanges letterRanges c

def isNumber (c : Char) : Bool := inRanges numberRanges c

def isLetterOrNumber (c : Char) : Bool := isLetter c || isNumber c

end KeyedRecords.Text
