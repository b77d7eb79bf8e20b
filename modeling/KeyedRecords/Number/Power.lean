/-!
Powers of two, in which the bits of a number count, and of ten, in which its digits do.
-/

namespace KeyedRecords

abbrev twoPow (n : Nat) : Nat := Nat.pow 2 n

abbrev tenPow (n : Nat) : Nat := Nat.pow 10 n

end KeyedRecords
