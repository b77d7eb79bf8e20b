import KeyedRecords.Graph.DomainTable
import KeyedRecords.Text.Case
import KeyedRecords.Text.Composition
import KeyedRecords.Text.Direction
import KeyedRecords.Text.Joining
import KeyedRecords.Text.Punycode

/-!
Names of hosts. Characters that stand for others are replaced first. Then each label between points
has to be one that can be read in one way only.
-/

namespace KeyedRecords.Domain

open Text (inRanges)

def isAscii (c : Char) : Bool := c.toNat < 0x80

/-- Characters of ASCII that no domain has. -/
def isDenied (c : Char) : Bool :=
  c.toNat ≤ 0x20 || c.toNat == 0x7F ||
    ['%', '#', '/', ':', '<', '>', '?', '@', '[', '\\', ']', '^', '|'].contains c

/-- Characters that are left out. -/
def ignoredRanges : List (Nat × Nat) :=
  [(0xAD, 0xAD), (0x34F, 0x34F), (0x115F, 0x1160), (0x17B4, 0x17B5), (0x180B, 0x180D),
    (0x180F, 0x180F), (0x200B, 0x200B), (0x2060, 0x2060), (0x2064, 0x2064), (0x3164, 0x3164),
    (0xFE00, 0xFE0F), (0xFEFF, 0xFEFF), (0xFFA0, 0xFFA0), (0x1BCA0, 0x1BCA3), (0xE0100, 0xE01EF)]

/-- What a character outside of ASCII stands for, if it stands for others that differ in more than
their look. -/
def form? (c : Char) : Option (List Char) :=
  match asciiRuns.find? fun r => r.1 ≤ c.toNat && c.toNat ≤ r.2.1 with
  | some (first, _, d) => some [Char.ofNat (d.toNat + (c.toNat - first))]
  | none =>
    mixedForms.findSome? fun (first, forms) =>
      if first ≤ c.toNat then forms[c.toNat - first]?.map String.toList else none

/-- What a character counts as; `none` if no domain has it. Joiners are left for the labels that
they stand in. -/
def mapped? (c : Char) : Option (List Char) :=
  if isAscii c then if isDenied c then none else some [c.toLower]
  else if inRanges ignoredRanges c then some []
  else if Text.isJoiner c then some [c]
  else if Text.isShapeless c || inRanges deniedRanges c then none
  else some ((form? c).getD [c])

/-- Letters that stay as they are although there are small ones. -/
def isFixedCapital (c : Char) : Bool := 0x13A0 ≤ c.toNat && c.toNat ≤ 0x13F5

/-- Whether a character stands for itself. -/
def isPlain (c : Char) : Bool :=
  mapped? c == some [c] && !inRanges standInRanges c &&
    (Text.lowerChar c == [c] || isFixedCapital c)

/-- The characters of a label. What is written in Punycode has to need it, and to be as it would
have been replaced. -/
def label? : List Char → Option (List Char)
  | 'x' :: 'n' :: '-' :: '-' :: rest =>
    if rest.all isAscii then
      (Punycode.decode? rest).filter fun cs =>
        cs.all isPlain && Text.isComposed cs && !cs.all isAscii
    else
      none
  | cs => some cs

/-- No label begins with a mark, which would belong to the point. -/
def isReadable (label : List Char) : Bool :=
  !(label.head?.any fun c => Text.isMark c || Text.isSpacingMark c) && Text.allJoin [] label

/-- The domain that a text denotes, with its characters replaced. If the direction of one label
matters, all have to be written in one direction each. -/
def ofText? (s : String) : Option String := do
  let name := String.ofList (← s.toList.mapM mapped?).flatten
  let labels ← (name.splitOn ".").mapM fun label => label? label.toList
  let isTelling := labels.any fun label => label.any Text.Direction.isTelling
  if labels.all isReadable && (!isTelling || labels.all Text.Direction.isUniform) then some name
  else none

end KeyedRecords.Domain
