/-!
Ranges of code points, by the first and the last of each.
-/

namespace KeyedRecords.Text

def inRanges (ranges : List (Nat × Nat)) (c : Char) : Bool :=
  ranges.any fun r => r.1 ≤ c.toNat && c.toNat ≤ r.2

end KeyedRecords.Text
