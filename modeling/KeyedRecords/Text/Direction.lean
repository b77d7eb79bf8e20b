import KeyedRecords.Text.DirectionTable
import KeyedRecords.Text.Shape

/-!
The direction that characters are written in, and names in which it is never in doubt where a
character belongs.
-/

namespace KeyedRecords.Text

inductive Direction where
  | leftToRight
  | rightToLeft
  | digit
  | arabicDigit
  | neutral
  /-- A mark, which goes with the character in front of it. -/
  | mark
  deriving DecidableEq

namespace Direction

def ofChar (c : Char) : Direction :=
  if c.toNat < 0x80 then
    if c.isAlpha then leftToRight else if c.isDigit then digit else neutral
  else if isMark c then mark
  else if inRanges digitRanges c then digit
  else if inRanges arabicDigitRanges c then arabicDigit
  else if inRanges neutralRanges c then neutral
  else if inRanges rightToLeftRanges c then rightToLeft
  else leftToRight

/-- Whether a character makes it matter in which direction the others are written. -/
def isTelling (c : Char) : Bool := [rightToLeft, arabicDigit].contains (ofChar c)

/-- Whether the last one that is no mark is among those given, if there is one. -/
def endsIn (allowed ds : List Direction) : Bool :=
  (ds.reverse.find? (· != mark)).all allowed.contains

/-- Whether a text is written in one direction, that of its first character, up to its end. Digits
of both kinds do not go together from right to left. -/
def isUniform (cs : List Char) : Bool :=
  match cs.map ofChar with
  | [] => true
  | leftToRight :: ds =>
    ds.all [leftToRight, digit, neutral, mark].contains && endsIn [leftToRight, digit] ds
  | rightToLeft :: ds =>
    !ds.contains leftToRight && !(ds.contains digit && ds.contains arabicDigit) &&
      endsIn [rightToLeft, digit, arabicDigit] ds
  | _ => false

end Direction

end KeyedRecords.Text
