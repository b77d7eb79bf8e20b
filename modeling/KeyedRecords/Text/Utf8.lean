/-!
UTF-8: the characters that bytes stand for. Bytes that begin like a character and do not go on like
one are kept together as a gap.
-/

namespace KeyedRecords.Utf8

/-- Bytes that stand for no character. -/
structure Gap where
  length : Nat
  /-- Whether the bytes end where a character could go on. -/
  isCutShort : Bool
  deriving DecidableEq

/-- Reads `n` more bytes of a character, the next of them between `low` and `high`. -/
def more (value used : Nat) :
    (n : Nat) → (low high : Nat) → List UInt8 → Except Gap Char × List UInt8
  | 0, _, _, rest => (.ok (Char.ofNat value), rest)
  | _ + 1, _, _, [] => (.error ⟨used, true⟩, [])
  | n + 1, low, high, b :: rest =>
    if low ≤ b.toNat ∧ b.toNat ≤ high then
      more (64 * value + b.toNat % 64) (used + 1) n 0x80 0xBF rest
    else
      (.error ⟨used, false⟩, b :: rest)

theorem length_more (value used n low high : Nat) (bytes : List UInt8) :
    (more value used n low high bytes).2.length ≤ bytes.length := by
  induction n generalizing value used low high bytes with
  | zero => simp [more]
  | succ n ih =>
    cases bytes with
    | nil => simp [more]
    | cons b rest =>
      simp only [more]
      split
      · exact Nat.le_succ_of_le (ih ..)
      · simp

/-- Reads a character by its first byte. No character has a form longer than it needs, and none is
a surrogate or past the last code point. -/
def first (b : UInt8) (rest : List UInt8) : Except Gap Char × List UInt8 :=
  let lead := b.toNat
  if lead < 0x80 then more lead 1 0 0 0 rest
  else if lead < 0xC2 then (.error ⟨1, false⟩, rest)
  else if lead < 0xE0 then more (lead - 0xC0) 1 1 0x80 0xBF rest
  else if lead < 0xF0 then
    more (lead - 0xE0) 1 2 (if lead = 0xE0 then 0xA0 else 0x80)
      (if lead = 0xED then 0x9F else 0xBF) rest
  else if lead < 0xF5 then
    more (lead - 0xF0) 1 3 (if lead = 0xF0 then 0x90 else 0x80)
      (if lead = 0xF4 then 0x8F else 0xBF) rest
  else (.error ⟨1, false⟩, rest)

theorem length_first (b : UInt8) (rest : List UInt8) :
    (first b rest).2.length ≤ rest.length := by
  grind [first, length_more]

/-- The characters of bytes and the gaps between them. -/
def units : List UInt8 → List (Except Gap Char)
  | [] => []
  | b :: rest => (first b rest).1 :: units (first b rest).2
termination_by bytes => bytes.length
decreasing_by exact Nat.lt_succ_of_le (length_first b rest)

def ofString (s : String) : List UInt8 := s.toUTF8.data.toList

/-- The text of bytes, or the first gap in them and the number of bytes before it. -/
def decode (bytes : List UInt8) : Except (Nat × Gap) String :=
  go 0 [] (units bytes)
where
  go (before : Nat) (read : List Char) : List (Except Gap Char) → Except (Nat × Gap) String
    | [] => .ok (String.ofList read.reverse)
    | .ok c :: rest => go (before + c.utf8Size) (c :: read) rest
    | .error gap :: _ => .error (before, gap)

/-- The text of bytes, each gap replaced. -/
def decodeLossy (bytes : List UInt8) : String :=
  String.ofList <| (units bytes).map fun unit =>
    match unit with
    | .ok c => c
    | .error _ => '\uFFFD'

end KeyedRecords.Utf8
