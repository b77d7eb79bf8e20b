import KeyedRecords.Text.Numeral
import KeyedRecords.Text.Utf8

/-!
Percent encoding: a byte as a percent sign and two hexadecimal digits.
-/

namespace KeyedRecords.Percent

/-- The bytes of a text. A percent sign that no two digits follow stands for itself. -/
def decode : List Char → List UInt8
  | '%' :: a :: b :: rest =>
    match Text.hexDigit? a, Text.hexDigit? b with
    | some high, some low => .ofNat (16 * high + low) :: decode rest
    | _, _ => 0x25 :: decode (a :: b :: rest)
  | c :: rest => Utf8.ofString (String.singleton c) ++ decode rest
  | [] => []

/-- The text of a part of a form, in which a plus sign stands for a space. -/
def formText (cs : List Char) : String :=
  Utf8.decodeLossy (decode (cs.map fun c => if c = '+' then ' ' else c))

/-- The front of a text up to a character, and what follows the character. -/
def cut (stop : Char) (cs : List Char) : List Char × List Char :=
  (cs.takeWhile (· != stop), (cs.dropWhile (· != stop)).drop 1)

/-- The names and values of a form. Empty parts are passed over. -/
def form (s : String) : List (String × String) :=
  ((s.splitOn "&").filter (!·.isEmpty)).map fun part =>
    let (name, value) := cut '=' part.toList
    (formText name, formText value)

end KeyedRecords.Percent
