import KeyedRecords.Relational.Cell

/-!
Affinities: what a column makes of the cells that are stored in it or compared with it.
-/

namespace KeyedRecords

inductive Affinity where
  | integer
  | text
  | none
  | real
  | numeric
  deriving DecidableEq

def containsChars (word : List Char) : List Char → Bool
  | [] => word.isEmpty
  | c :: rest => word.isPrefixOf (c :: rest) || containsChars word rest

/-- Whether a word of small letters occurs within a text, in any case of its ASCII letters. -/
def containsWord (s word : String) : Bool := containsChars word.toList s.toLower.toList

namespace Affinity

/-- By the words that occur in the declared type of a column. -/
def ofDeclared (declared : String) : Affinity :=
  let has := containsWord declared
  if has "int" then integer
  else if has "char" || has "clob" || has "text" then text
  else if has "blob" || declared.isEmpty then none
  else if has "real" || has "floa" || has "doub" then real
  else numeric

def asText : Cell → Cell
  | .integer n => .text (Text.signedDecimal n.toInt)
  | .real x => .text (Numeral.text x)
  | c => c

def asNumber : Cell → Cell
  | .real x => Cell.wholeOf x
  | .text s => (Cell.numberOf? s).getD (.text s)
  | c => c

def asReal (c : Cell) : Cell :=
  match asNumber c with
  | .integer n => .real (.ofInt n.toInt)
  | d => d

/-- The cell that is stored. Texts that denote no number stay as they are. -/
def apply : Affinity → Cell → Cell
  | text, c => asText c
  | none, c => c
  | real, c => asReal c
  | integer, c => asNumber c
  | numeric, c => asNumber c

def isNumeric : Affinity → Bool
  | integer | real | numeric => true
  | text | none => false

/-- What two terms are compared as: numbers if one of two columns holds numbers, and otherwise as
the only column has it. -/
def shared : Option Affinity → Option Affinity → Affinity
  | some a, some b => if a.isNumeric || b.isNumeric then numeric else none
  | some a, Option.none => a
  | Option.none, some b => b
  | Option.none, Option.none => none

/-- The cell that a term is compared as. Numbers are compared exactly, so that an integer is not
rounded for a column of real numbers. -/
def compared (a : Affinity) (c : Cell) : Cell :=
  if a.isNumeric then asNumber c else a.apply c

end Affinity

end KeyedRecords
