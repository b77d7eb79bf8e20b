/-!
White space (the property White_Space) and its removal at both ends of a text.
-/

namespace KeyedRecords.Text

def isBlank (c : Char) : Bool :=
  (9 ≤ c.toNat && c.toNat ≤ 13) || c.toNat == 0x20 || c.toNat == 0x85 || c.toNat == 0xA0 ||
    c.toNat == 0x1680 || (0x2000 ≤ c.toNat && c.toNat ≤ 0x200A) || c.toNat == 0x2028 ||
    c.toNat == 0x2029 || c.toNat == 0x202F || c.toNat == 0x205F || c.toNat == 0x3000

theorem isBlank_of_isWhitespace {c : Char} (h : c.isWhitespace) : isBlank c := by
  simp only [Char.isWhitespace, Bool.or_eq_true, decide_eq_true_eq] at h
  rcases h with ((h | h) | h) | h <;> subst h <;> decide

def dropEndWhile (p : Char → Bool) (cs : List Char) : List Char :=
  (cs.reverse.dropWhile p).reverse

def trimChars (cs : List Char) : List Char :=
  dropEndWhile isBlank (cs.dropWhile isBlank)

/-- Without the white space at both ends. -/
def trim (s : String) : String := String.ofList (trimChars s.toList)

/-- Whether nothing is left after trimming. -/
def allBlank (s : String) : Bool := s.toList.all isBlank

theorem dropWhile_isBlank_eq_nil_iff {cs : List Char} :
    cs.dropWhile isBlank = [] ↔ ∀ c ∈ cs, isBlank c := by
  induction cs with
  | nil => simp
  | cons c cs ih => by_cases h : isBlank c <;> simp [h, ih]

theorem trimChars_eq_nil_iff {cs : List Char} : trimChars cs = [] ↔ ∀ c ∈ cs, isBlank c := by
  rw [trimChars, dropEndWhile, List.reverse_eq_nil_iff, dropWhile_isBlank_eq_nil_iff]
  simp only [List.mem_reverse]
  constructor
  · intro h
    refine dropWhile_isBlank_eq_nil_iff.1 (Decidable.byContradiction fun hne => ?_)
    have := List.head_dropWhile_not isBlank hne
    simp [h _ (List.head_mem hne)] at this
  · exact fun h c hc => h c ((List.dropWhile_sublist _).subset hc)

theorem trim_eq_empty_iff {s : String} : trim s = "" ↔ allBlank s := by
  rw [allBlank, List.all_eq_true, ← trimChars_eq_nil_iff, trim, String.ofList_eq_empty_iff]

end KeyedRecords.Text
