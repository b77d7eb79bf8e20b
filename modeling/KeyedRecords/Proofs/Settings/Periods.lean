import Mathlib
import KeyedRecords.Proofs.Query.Extraction
import KeyedRecords.Proofs.Text.Blank
import KeyedRecords.Settings.Period

/-!
Which texts are time periods, and how long these are (`Period.parse_iff`). Blanks, digits and
letters are different characters, so where one of the pieces of a period ends and the next begins is
seen from the text; only the blanks around a missing unit could be counted either way.
-/

namespace KeyedRecords

/-! ## Classes of characters -/

namespace Text

variable {c : Char}

theorem isDigit_iff : isDigit c ↔ '0' ≤ c ∧ c ≤ '9' := by simp [isDigit]

theorem toNat_of_isDigit (h : isDigit c) : 48 ≤ c.toNat ∧ c.toNat ≤ 57 := by
  obtain ⟨hzero, hnine⟩ := isDigit_iff.1 h
  exact ⟨UInt32.le_iff_toNat_le.1 hzero, UInt32.le_iff_toNat_le.1 hnine⟩

theorem toNat_of_isAlpha (h : c.isAlpha) :
    65 ≤ c.toNat ∧ c.toNat ≤ 90 ∨ 97 ≤ c.toNat ∧ c.toNat ≤ 122 := by
  simp only [Char.isAlpha, Char.isUpper, Char.isLower, Bool.or_eq_true, Bool.and_eq_true,
    decide_eq_true_eq] at h
  rcases h with ⟨hfirst, hlast⟩ | ⟨hfirst, hlast⟩
  · exact .inl ⟨UInt32.le_iff_toNat_le.1 hfirst, UInt32.le_iff_toNat_le.1 hlast⟩
  · exact .inr ⟨UInt32.le_iff_toNat_le.1 hfirst, UInt32.le_iff_toNat_le.1 hlast⟩

/-- Among the characters of ASCII that show, none is blank. -/
theorem not_isBlank_of_toNat (hfirst : 33 ≤ c.toNat) (hlast : c.toNat ≤ 126) : ¬isBlank c := by
  simp only [isBlank, Bool.or_eq_true, Bool.and_eq_true, decide_eq_true_eq, beq_iff_eq]
  omega

theorem not_isBlank_of_isDigit (h : isDigit c) : ¬isBlank c := by
  have hcode := toNat_of_isDigit h
  exact not_isBlank_of_toNat (by omega) (by omega)

theorem not_isBlank_of_isAlpha (h : c.isAlpha) : ¬isBlank c := by
  have hcode := toNat_of_isAlpha h
  exact not_isBlank_of_toNat (by omega) (by omega)

theorem not_isDigit_of_isAlpha (h : c.isAlpha) : ¬isDigit c := by
  intro hdigit
  have hcode := toNat_of_isAlpha h
  have hcode' := toNat_of_isDigit hdigit
  omega

end Text

namespace Period

variable {s : String} {cs word after : List Char} {unit : String} {amount millis : Nat}

/-! ## What a period is -/

/-- The spellings of the units, and the milliseconds of each. -/
def units : List (String × Nat) :=
  [("ms", 1), ("milli", 1), ("millis", 1), ("msec", 1), ("msecs", 1), ("millisecond", 1),
    ("milliseconds", 1),
    ("", 1000), ("s", 1000), ("sec", 1000), ("secs", 1000), ("second", 1000), ("seconds", 1000),
    ("m", 60000), ("min", 60000), ("mins", 60000), ("minute", 60000), ("minutes", 60000),
    ("h", 3600000), ("hr", 3600000), ("hrs", 3600000), ("hour", 3600000), ("hours", 3600000),
    ("d", 86400000), ("day", 86400000), ("days", 86400000)]

/-- The text says so many units of so many milliseconds: a number in digits and a unit in any case,
with white space before, between and after. -/
inductive Says (s : String) : Nat → Nat → Prop
  | intro {before digits between word after : List Char} {millis : Nat}
    (pieces : s.toList = before ++ (digits ++ (between ++ (word ++ after))))
    (blank_before : ∀ c ∈ before, Text.isBlank c)
    (digits_ne_nil : digits ≠ [])
    (decimal : ∀ d ∈ digits, '0' ≤ d ∧ d ≤ '9')
    (blank_between : ∀ c ∈ between, Text.isBlank c)
    (named : ((String.ofList word).toLower, millis) ∈ units)
    (blank_after : ∀ c ∈ after, Text.isBlank c) :
    Says s (Nat.ofDigits 10 (digits.reverse.map Text.digitValue)) millis

theorem unitMillis?_of_mem_units : ∀ u ∈ units, unitMillis? u.1 = some u.2 := by decide

theorem unitMillis?_eq_some_iff : unitMillis? unit = some millis ↔ (unit, millis) ∈ units := by
  constructor
  · intro h
    unfold unitMillis? at h
    split at h <;> cases h <;> decide
  · exact unitMillis?_of_mem_units _

theorem units_letters : ∀ u ∈ units, u.1.toList.all Char.isAlpha := by decide

theorem toLower_ofList (cs : List Char) :
    (String.ofList cs).toLower = String.ofList (cs.map Char.toLower) := by
  have hmap : (String.ofList cs).toLower.toList = (String.ofList cs).toList.map Char.toLower :=
    String.toList_map
  rw [← String.toList_inj, hmap, String.toList_ofList, String.toList_ofList]

theorem isUnitLetter_of_named (h : ((String.ofList word).toLower, millis) ∈ units) :
    ∀ c ∈ word, isUnitLetter c := by
  intro c hc
  have hletters := units_letters _ h
  rw [toLower_ofList, String.toList_ofList, List.all_eq_true] at hletters
  have hletter : c.toLower.isAlpha := hletters _ (List.mem_map_of_mem hc)
  rwa [Char.isAlpha_toLower_eq_isAlpha] at hletter

/-! ## Taking the pieces apart -/

/-- The unit is what comes behind the blanks, also if it is missing and all is blank. -/
theorem unit_behind_blanks (hword : ∀ c ∈ word, isUnitLetter c)
    (hafter : ∀ c ∈ after, Text.isBlank c) :
    ((word ++ after).dropWhile Text.isBlank).takeWhile isUnitLetter = word ∧
      ∀ c ∈ ((word ++ after).dropWhile Text.isBlank).dropWhile isUnitLetter, Text.isBlank c := by
  cases word with
  | nil =>
    have hnone : after.dropWhile Text.isBlank = [] := Text.dropWhile_isBlank_eq_nil_iff.2 hafter
    simp [hnone]
  | cons c word =>
    have hc : ¬Text.isBlank c := Text.not_isBlank_of_isAlpha (hword c List.mem_cons_self)
    have hend : ∀ a ∈ after.head?, ¬isUnitLetter a := fun a ha hletter =>
      Text.not_isBlank_of_isAlpha hletter (hafter a (List.mem_of_mem_head? ha))
    obtain ⟨htake, hdrop⟩ := span_append hword hend
    rw [List.cons_append, List.dropWhile_cons_of_neg hc, ← List.cons_append, htake, hdrop]
    exact ⟨rfl, hafter⟩

theorem parts?_of_pieces {before digits between : List Char}
    (hbefore : ∀ c ∈ before, Text.isBlank c) (hdigits : Text.numeral? digits = some amount)
    (hbetween : ∀ c ∈ between, Text.isBlank c) (hword : ∀ c ∈ word, isUnitLetter c)
    (hafter : ∀ c ∈ after, Text.isBlank c) :
    parts? (before ++ (digits ++ (between ++ (word ++ after)))) =
      some (amount, (String.ofList word).toLower) := by
  obtain ⟨hne, hdecimal, -⟩ := Text.numeral?_eq_some_iff.1 hdigits
  have hdecimal : ∀ d ∈ digits, Text.isDigit d := fun d hd => Text.isDigit_iff.2 (hdecimal d hd)
  have hstart : ∀ c ∈ (digits ++ (between ++ (word ++ after))).head?, ¬Text.isBlank c := by
    intro c hc
    obtain ⟨d, ds, rfl⟩ := List.exists_cons_of_ne_nil hne
    obtain rfl : d = c := by simpa using hc
    exact Text.not_isBlank_of_isDigit (hdecimal d List.mem_cons_self)
  have hend : ∀ c ∈ (between ++ (word ++ after)).head?, ¬Text.isDigit c := by
    intro c hc hdigit
    have hblank : ¬Text.isBlank c := Text.not_isBlank_of_isDigit hdigit
    rcases List.mem_append.1 (List.mem_of_mem_head? hc) with hmem | hmem
    · exact hblank (hbetween c hmem)
    · rcases List.mem_append.1 hmem with hmem | hmem
      · exact Text.not_isDigit_of_isAlpha (hword c hmem) hdigit
      · exact hblank (hafter c hmem)
  obtain ⟨-, hfront⟩ := span_append hbefore hstart
  obtain ⟨htake, hdrop⟩ := span_append hdecimal hend
  obtain ⟨hunit, hrest⟩ := unit_behind_blanks hword hafter
  simp only [parts?, hfront, htake, hdrop, List.dropWhile_append_of_pos hbetween, hunit,
    List.all_eq_true.2 hrest, if_true, hdigits, Option.map_some, toLower_ofList]

theorem pieces_of_parts? (h : parts? cs = some (amount, unit)) :
    ∃ before digits between word after : List Char,
      cs = before ++ (digits ++ (between ++ (word ++ after))) ∧
      (∀ c ∈ before, Text.isBlank c) ∧ Text.numeral? digits = some amount ∧
      (∀ c ∈ between, Text.isBlank c) ∧ unit = (String.ofList word).toLower ∧
      ∀ c ∈ after, Text.isBlank c := by
  simp only [parts?] at h
  split at h
  · next hafter =>
    obtain ⟨n, hn, heq⟩ := Option.map_eq_some_iff.1 h
    cases heq
    let body := cs.dropWhile Text.isBlank
    let behind := body.dropWhile Text.isDigit
    refine ⟨cs.takeWhile Text.isBlank, body.takeWhile Text.isDigit, behind.takeWhile Text.isBlank,
      _, _, ?_, List.all_eq_true.1 List.all_takeWhile, hn, List.all_eq_true.1 List.all_takeWhile,
      (toLower_ofList _).symm, List.all_eq_true.1 hafter⟩
    simp only [body, behind, List.takeWhile_append_dropWhile]
  · cases h

/-! ## Reading a period -/

theorem says_iff : Says s amount millis ↔
    ∃ unit, parts? s.toList = some (amount, unit) ∧ unitMillis? unit = some millis := by
  constructor
  · rintro ⟨pieces, hbefore, hne, hdecimal, hbetween, hnamed, hafter⟩
    refine ⟨_, ?_, unitMillis?_eq_some_iff.2 hnamed⟩
    rw [pieces]
    exact parts?_of_pieces hbefore (Text.numeral?_eq_some_iff.2 ⟨hne, hdecimal, rfl⟩) hbetween
      (isUnitLetter_of_named hnamed) hafter
  · rintro ⟨unit, hparts, hunit⟩
    obtain ⟨before, digits, between, word, after, hpieces, hbefore, hdigits, hbetween, rfl,
      hafter⟩ := pieces_of_parts? hparts
    obtain ⟨hne, hdecimal, rfl⟩ := Text.numeral?_eq_some_iff.1 hdigits
    exact .intro hpieces hbefore hne hdecimal hbetween (unitMillis?_eq_some_iff.1 hunit) hafter

/-- The text says so many milliseconds, and neither these nor the units exceed 64 bits. -/
def Lasts (s : String) (total : Nat) : Prop :=
  ∃ amount millis, Says s amount millis ∧ amount < 2 ^ 64 ∧ amount * millis < 2 ^ 64 ∧
    total = amount * millis

theorem span?_eq_some_iff {d : Span} :
    span? s = some d ↔ ∃ total, Lasts s total ∧ d = .ofMillis total := by
  simp only [span?, Option.bind_eq_bind, Option.bind_eq_some_iff]
  constructor
  · rintro ⟨⟨amount, unit⟩, hparts, millis, hunit, h⟩
    split at h
    · next hle =>
      cases h
      have hlt : amount < 2 ^ 64 ∧ amount * millis < 2 ^ 64 :=
        ⟨Nat.lt_succ_of_le hle.1, Nat.lt_succ_of_le hle.2⟩
      exact ⟨_, ⟨amount, millis, says_iff.2 ⟨unit, hparts, hunit⟩, hlt.1, hlt.2, rfl⟩, rfl⟩
    · cases h
  · rintro ⟨_, ⟨amount, millis, hsays, hamount, htotal, rfl⟩, rfl⟩
    obtain ⟨unit, hparts, hunit⟩ := says_iff.1 hsays
    refine ⟨_, hparts, millis, hunit, if_pos ⟨?_, ?_⟩⟩
    · exact Nat.le_of_lt_succ hamount
    · exact Nat.le_of_lt_succ htotal

theorem span?_eq_none_iff : span? s = none ↔ ¬∃ total, Lasts s total := by
  rw [Option.eq_none_iff_forall_ne_some]
  constructor
  · rintro h ⟨total, hlasts⟩
    exact h _ (span?_eq_some_iff.2 ⟨total, hlasts, rfl⟩)
  · intro h d hd
    obtain ⟨total, hlasts, -⟩ := span?_eq_some_iff.1 hd
    exact h ⟨total, hlasts⟩

/-- A text is read as a period exactly if it says one of at most 64 bits, and then to the
millisecond. Any other is refused, and the refusal shows the text. -/
theorem parse_iff (s : String) :
    (∀ d, parse s = .ok d ↔ ∃ total, Lasts s total ∧ d = .ofMillis total) ∧
      ∀ e, parse s = .error e ↔ e = .setting (.notAPeriod s) ∧ ¬∃ total, Lasts s total := by
  simp only [← span?_eq_some_iff, ← span?_eq_none_iff]
  unfold parse
  cases span? s with
  | some span => simp
  | none => simp [eq_comm]

end Period

end KeyedRecords
