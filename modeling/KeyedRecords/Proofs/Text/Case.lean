import Mathlib.Data.String.Basic
import KeyedRecords.Text.Case

/-!
Which texts the case mappings turn into a word of ASCII letters. Almost all that lies outside of
ASCII is mapped to characters outside of ASCII, or to several of which one is. The exceptions are
the Kelvin sign in lower case, and in upper case the long s, the sharp s, the ligatures with f and
s, and the dotless i. A word without `k`, or one without `F` and `S` if not for the dotless i, so
comes from the texts that differ from it in ASCII case only (`lower_eq_iff`, `upper_eq_iff`).
-/

namespace KeyedRecords.Text

/-! ## Words -/

/-- The mapping `f` gives one character for one, as `g` does, except where neither gives only
characters of `P`. -/
def AgreesOn (P : Char → Prop) (f : Char → List Char) (g : Char → Char) : Prop :=
  ∀ c, f c = [g c] ∨ (∃ d ∈ f c, ¬P d) ∧ ¬P (g c)

theorem AgreesOn.flatMap_eq_iff {P : Char → Prop} {f : Char → List Char} {g : Char → Char}
    (h : AgreesOn P f g) {cs word : List Char} (hword : ∀ d ∈ word, P d) :
    cs.flatMap f = word ↔ cs.map g = word := by
  by_cases hall : ∀ c ∈ cs, f c = [g c]
  · have heq : cs.flatMap f = cs.map g := by
      rw [List.flatMap_def, List.map_congr_left hall, ← List.flatMap_def, ← List.map_eq_flatMap]
    rw [heq]
  · -- One character is out of the words on both sides, and then neither side is one.
    simp only [not_forall] at hall
    obtain ⟨c, hc, hne⟩ := hall
    obtain ⟨⟨d, hd, hnot⟩, hnot'⟩ := (h c).resolve_left hne
    constructor
    · rintro rfl
      exact absurd (hword d (List.mem_flatMap.2 ⟨c, hc, hd⟩)) hnot
    · rintro rfl
      exact absurd (hword (g c) (List.mem_map_of_mem hc)) hnot'

/-! ## Runs -/

/-- The ASCII characters without the given ones. -/
def AsciiBut (excluded : List Char) (c : Char) : Prop := c.toNat < 128 ∧ c ∉ excluded

instance (excluded : List Char) : DecidablePred (AsciiBut excluded) := fun c =>
  inferInstanceAs (Decidable (c.toNat < 128 ∧ c ∉ excluded))

/-- All that a run gives are characters outside of ASCII. -/
def CaseRun.IsForeign (r : CaseRun) : Prop :=
  128 ≤ r.image ∧ (r.image + (r.last - r.first) < 0xD800 ∨
    0xE000 ≤ r.image ∧ r.image + (r.last - r.first) < 0x110000)

instance (r : CaseRun) : Decidable r.IsForeign :=
  inferInstanceAs (Decidable (_ ∧ (_ ∨ _ ∧ _)))

variable {excluded : List Char} {r : CaseRun} {n : Nat} {c : Char}

theorem toNat_ofNat_of_isValidChar (h : n.isValidChar) : (Char.ofNat n).toNat = n := by
  rw [Char.ofNat, dif_pos h]
  rfl

theorem CaseRun.of_covers (h : r.covers n = true) : r.first ≤ n ∧ n ≤ r.last := by
  simp only [covers, Bool.and_eq_true, decide_eq_true_eq] at h
  exact h.1

theorem CaseRun.IsForeign.not_asciiBut (h : r.IsForeign) (hn : r.covers n = true) :
    ¬AsciiBut excluded (Char.ofNat (r.apply n)) := by
  obtain ⟨hfirst, hlast⟩ := of_covers hn
  obtain ⟨himage, hrange⟩ := h
  have hvalid : (r.apply n).isValidChar := by
    unfold apply Nat.isValidChar
    omega
  rw [AsciiBut, toNat_ofNat_of_isValidChar hvalid, apply]
  omega

/-- A table that leads from outside of ASCII into words from the spared code points only. -/
structure KeepsOut (excluded : List Char) (spared : List Nat) (expansions : List (Nat × List Nat))
    (runs : List CaseRun) : Prop where
  expansions_out : ∀ e ∈ expansions, ∃ n ∈ e.2, ¬AsciiBut excluded (Char.ofNat n)
  runs_out : ∀ r ∈ runs, r.last < 128 ∨ r.IsForeign ∨
    r.first = r.last ∧ (Char.ofNat r.image ∈ excluded ∨ r.first ∈ spared)

theorem KeepsOut.exists_mem_mapCase {spared : List Nat} {expansions : List (Nat × List Nat)}
    {runs : List CaseRun} (h : KeepsOut excluded spared expansions runs) (hc : 128 ≤ c.toNat)
    (hspared : c.toNat ∉ spared) : ∃ d ∈ mapCase expansions runs c, ¬AsciiBut excluded d := by
  unfold mapCase
  split
  · next image hfind =>
    obtain ⟨n, hn, hout⟩ := h.expansions_out _ (List.mem_of_find?_eq_some hfind)
    exact ⟨_, List.mem_map_of_mem hn, hout⟩
  · split
    · next r hfind =>
      refine ⟨_, List.mem_singleton_self _, ?_⟩
      have hcovers : r.covers c.toNat = true := by simpa using List.find?_some hfind
      obtain ⟨hfirst, hlast⟩ := CaseRun.of_covers hcovers
      rcases h.runs_out r (List.mem_of_find?_eq_some hfind) with hascii | hforeign | ⟨hone, hto⟩
      · -- A run within ASCII does not reach the character.
        omega
      · exact hforeign.not_asciiBut hcovers
      · have hcode : c.toNat = r.first := by omega
        rw [hcode] at hspared
        rw [CaseRun.apply, hcode, Nat.sub_self, Nat.add_zero]
        exact fun hbut => hbut.2 (hto.resolve_right hspared)
    · exact ⟨c, List.mem_singleton_self c, fun hbut => absurd hbut.1 (Nat.not_lt.2 hc)⟩

/-! ## Lower case -/

theorem lowerChar_ascii : ∀ n < 128, lowerChar (Char.ofNat n) = [(Char.ofNat n).toLower] := by
  decide +kernel

theorem toLower_of_foreign (hc : 128 ≤ c.toNat) : c.toLower = c := by
  have hnot : ¬(c.val ≥ 'A'.val ∧ c.val ≤ 'Z'.val) := fun h =>
    absurd (UInt32.le_iff_toNat_le.1 h.2) (Nat.not_le.2 (Nat.lt_of_lt_of_le (by decide) hc))
  exact dif_neg hnot

theorem keepsOut_lower : KeepsOut ['k'] [] lowerExpansions lowerRuns where
  expansions_out := by decide +kernel
  runs_out := by decide +kernel

theorem agreesOn_lowerChar : AgreesOn (AsciiBut ['k']) lowerChar Char.toLower := by
  intro c
  rcases Nat.lt_or_ge c.toNat 128 with hc | hc
  · left
    simpa [Char.ofNat_toNat] using lowerChar_ascii c.toNat hc
  · right
    rw [toLower_of_foreign hc]
    exact ⟨keepsOut_lower.exists_mem_mapCase hc (List.not_mem_nil),
      fun hbut => absurd hbut.1 (Nat.not_lt.2 hc)⟩

/-- A word without `k` is the lower case of the texts that it is the ASCII lower case of. -/
theorem lower_eq_iff {s word : String} (hword : ∀ d ∈ word.toList, AsciiBut ['k'] d) :
    lower s = word ↔ s.toLower = word := by
  have hlower : s.toLower.toList = s.toList.map Char.toLower := String.toList_map
  rw [← String.toList_inj, ← String.toList_inj, lower, String.toList_ofList, hlower]
  exact agreesOn_lowerChar.flatMap_eq_iff hword

/-! ## Upper case -/

/-- The dotless i with its dot. -/
def dotted (c : Char) : Char := if c = 'ı' then 'i' else c

theorem upperChar_ascii : ∀ n < 128,
    upperChar (Char.ofNat n) = [(dotted (Char.ofNat n)).toUpper] := by
  decide +kernel

theorem toUpper_of_foreign (hc : 128 ≤ c.toNat) : c.toUpper = c := by
  have hnot : ¬('a'.val ≤ c.val ∧ c.val ≤ 'z'.val) := fun h =>
    absurd (UInt32.le_iff_toNat_le.1 h.2) (Nat.not_le.2 (Nat.lt_of_lt_of_le (by decide) hc))
  exact dif_neg hnot

theorem keepsOut_upper : KeepsOut ['F', 'S'] ['ı'.toNat] upperExpansions upperRuns where
  expansions_out := by decide +kernel
  runs_out := by decide +kernel

theorem agreesOn_upperChar :
    AgreesOn (AsciiBut ['F', 'S']) upperChar fun c => (dotted c).toUpper := by
  intro c
  rcases Nat.lt_or_ge c.toNat 128 with hc | hc
  · left
    simpa [Char.ofNat_toNat] using upperChar_ascii c.toNat hc
  · by_cases hdotless : c = 'ı'
    · left
      rw [hdotless]
      decide +kernel
    · right
      have hcode : c.toNat ∉ ['ı'.toNat] := fun hmem =>
        hdotless (Char.toNat_inj.1 (List.mem_singleton.1 hmem))
      have hsame : (dotted c).toUpper = c := by
        rw [dotted, if_neg hdotless, toUpper_of_foreign hc]
      simp only [hsame]
      exact ⟨keepsOut_upper.exists_mem_mapCase hc hcode,
        fun hbut => absurd hbut.1 (Nat.not_lt.2 hc)⟩

/-- A word without `F` and `S` is the upper case of the texts that it is the ASCII upper case of
with dots on all their letters i. -/
theorem upper_eq_iff {s word : String} (hword : ∀ d ∈ word.toList, AsciiBut ['F', 'S'] d) :
    upper s = word ↔ (s.map dotted).toUpper = word := by
  have hupper : (s.map dotted).toUpper.toList = (s.map dotted).toList.map Char.toUpper :=
    String.toList_map
  rw [← String.toList_inj, ← String.toList_inj, upper, String.toList_ofList, hupper,
    String.toList_map, List.map_map]
  exact agreesOn_upperChar.flatMap_eq_iff hword

end KeyedRecords.Text
