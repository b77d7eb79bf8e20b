import KeyedRecords.Text.Combining
import KeyedRecords.Text.CompositionTable

/-!
Texts in which nothing could be written as fewer characters, nor marks in another order.
-/

namespace KeyedRecords.Text

/-- Whether two parts of a Korean syllable make up one character: a first consonant and a vowel, or
a syllable without a last consonant and one. -/
def isSyllable (a b : Char) : Bool :=
  let within (c : Char) (first last : Nat) : Bool := first ≤ c.toNat && c.toNat ≤ last
  within a 0x1100 0x1112 && within b 0x1161 0x1175 ||
    within a 0xAC00 0xD7A3 && (a.toNat - 0xAC00) % 28 == 0 && within b 0x11A8 0x11C2

def composes (a b : Char) : Bool :=
  isSyllable a b ||
    compositions.any fun (second, firsts) => second == b.toNat && inRanges firsts a

/-- Whether marks are in the order of their classes and no character could be written as one with
the mark that follows it. `starter` is the last character that is no mark, and `last` the class of
the last character. A mark of the same class keeps the next one from the starter. -/
def staysApart (starter : Option Char) (last : Nat) : List Char → Bool
  | [] => true
  | c :: rest =>
    let k := combiningClass c
    let isOrdered := k = 0 || last ≤ k
    let isNext := last = 0 || last < k
    isOrdered && !(isNext && starter.any (composes · c)) &&
      staysApart (if k = 0 then some c else starter) k rest

def isComposed (cs : List Char) : Bool := staysApart none 0 cs

end KeyedRecords.Text
