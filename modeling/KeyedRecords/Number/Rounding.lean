/-!
Quotients rounded to the nearest integer.
-/

namespace KeyedRecords

/-- Where a quotient halfway between two integers goes. -/
inductive Tie where
  | up
  | even
  deriving DecidableEq

def roundDiv (tie : Tie) (num den : Nat) : Nat :=
  let q := num / den
  let r := num % den
  if 2 * r < den then q
  else if den < 2 * r then q + 1
  else match tie with
    | .up => q + 1
    | .even => if q % 2 = 0 then q else q + 1

/-- The rounded quotient is within half a unit. -/
theorem roundDiv_near (tie : Tie) {num den : Nat} (h : 0 < den) :
    2 * num ≤ (2 * roundDiv tie num den + 1) * den ∧
      2 * roundDiv tie num den * den ≤ 2 * num + den := by
  have hdiv := Nat.div_add_mod num den
  have hmod := Nat.mod_lt num h
  have key : ∀ x : Nat, (x = num / den ∧ 2 * (num % den) ≤ den) ∨
      (x = num / den + 1 ∧ den ≤ 2 * (num % den)) →
      2 * num ≤ (2 * x + 1) * den ∧ 2 * x * den ≤ 2 * num + den := by
    intro x hx
    generalize num / den = q at hdiv hx
    generalize num % den = r at hdiv hmod hx
    subst hdiv
    rcases hx with ⟨rfl, hr⟩ | ⟨rfl, hr⟩
    · have e : 2 * x * den = 2 * (den * x) := by
        rw [Nat.mul_assoc, Nat.mul_comm x den]
      rw [Nat.add_mul, e]
      omega
    · have e : 2 * (q + 1) * den = 2 * (den * q) + 2 * den := by
        rw [Nat.mul_assoc, Nat.add_mul, Nat.mul_comm q den]; omega
      rw [Nat.add_mul, e]
      omega
  apply key
  unfold roundDiv
  simp only
  split
  · exact .inl ⟨rfl, by omega⟩
  · split
    · exact .inr ⟨rfl, by omega⟩
    · cases tie with
      | up => exact .inr ⟨rfl, by omega⟩
      | even =>
        simp only
        split
        · exact .inl ⟨rfl, by omega⟩
        · exact .inr ⟨rfl, by omega⟩

end KeyedRecords
