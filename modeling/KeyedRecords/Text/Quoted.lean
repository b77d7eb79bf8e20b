import KeyedRecords.Text.Shape

/-!
Quoted texts. Within the quotes a quote, a backslash and the characters below the space are written
as escapes.
-/

namespace KeyedRecords.Text

def escape (c : Char) : List Char :=
  if c = '"' then ['\\', '"']
  else if c = '\\' then ['\\', '\\']
  else if c.toNat = 0x08 then ['\\', 'b']
  else if c.toNat = 0x0C then ['\\', 'f']
  else if c = '\n' then ['\\', 'n']
  else if c = '\r' then ['\\', 'r']
  else if c = '\t' then ['\\', 't']
  else if c.toNat < 0x20 then
    ['\\', 'u', '0', '0', Nat.digitChar (c.toNat / 16), Nat.digitChar (c.toNat % 16)]
  else [c]

def quoted (s : String) : String :=
  String.ofList (['"'] ++ s.toList.flatMap escape ++ ['"'])

/-- The escape of a character for people. One without a shape, or that extends the one in front of
it, is shown by its number. -/
def displayEscape (c : Char) : List Char :=
  if c = '"' ∨ c = '\\' ∨ c = '\n' ∨ c = '\r' ∨ c = '\t' then escape c
  else if c.toNat = 0 then ['\\', '0']
  else if isExtender c || isShapeless c then
    ['\\', 'u', '\x7b'] ++ Nat.toDigits 16 c.toNat ++ ['\x7d']
  else [c]

/-- A text in quotes as it is shown to people. -/
def displayQuoted (s : String) : String :=
  String.ofList (['"'] ++ s.toList.flatMap displayEscape ++ ['"'])

end KeyedRecords.Text
