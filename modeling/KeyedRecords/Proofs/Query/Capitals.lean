import KeyedRecords.Proofs.Settings.Checks
import KeyedRecords.Proofs.Text.Case
import KeyedRecords.Service.ByQuery

/-!
Identifiers in capitals. A store that answers in capitals is asked for the upper case of the key
column, while it is the key column that has passed the check. Letters become letters, but some have
no capital of their own and become a letter with accents behind it, and an accent by itself may not
stand in an identifier. So the column that is asked for is an identifier unless the key column has
such a letter, and it never has more than accents that an identifier has not
(`QuerySettings.isValid_column_iff`).
-/

namespace KeyedRecords

namespace Text

/-- The accents that follow a letter in upper cases. -/
def accents : List Nat := [0x300, 0x301, 0x308, 0x30A, 0x30C, 0x313, 0x331, 0x342]

/-- The letters whose upper case has accents. -/
def uncapitalized : List Nat :=
  [0x1F0, 0x390, 0x3B0, 0x1E96, 0x1E97, 0x1E98, 0x1E99, 0x1F50, 0x1F52, 0x1F54, 0x1F56, 0x1FB6,
   0x1FB7, 0x1FC6, 0x1FC7, 0x1FD2, 0x1FD3, 0x1FD6, 0x1FD7, 0x1FE2, 0x1FE3, 0x1FE4, 0x1FE6, 0x1FE7,
   0x1FF6, 0x1FF7]

variable {r : CaseRun} {first last n : Nat}

/-! ## Runs of letters -/

/-- All code points from `first` to `last` are letters, of one range. -/
def isLetterSpan (first last : Nat) : Bool :=
  letterRanges.any fun range => range.1.ble first && last.ble range.2

theorem letterRanges_valid :
    ∀ range ∈ letterRanges, range.2 < 0xD800 ∨ 0xE000 ≤ range.1 ∧ range.2 < 0x110000 := by
  decide +kernel

theorem isLetter_of_span (h : isLetterSpan first last) (hfirst : first ≤ n) (hlast : n ≤ last) :
    isLetter (Char.ofNat n) := by
  obtain ⟨range, hrange, hspan⟩ := List.any_eq_true.1 h
  rw [Bool.and_eq_true, Nat.ble_eq, Nat.ble_eq] at hspan
  have hvalid : n.isValidChar := by
    have hrange := letterRanges_valid range hrange
    unfold Nat.isValidChar
    omega
  refine List.any_eq_true.2 ⟨range, hrange, ?_⟩
  rw [toNat_ofNat_of_isValidChar hvalid, Bool.and_eq_true, decide_eq_true_eq, decide_eq_true_eq]
  omega

/-- All that a run gives are letters. -/
def CaseRun.IsLettered (r : CaseRun) : Prop :=
  isLetterSpan r.image (r.image + (r.last - r.first)) ∨
    ∀ k ≤ (r.last - r.first) / r.step, isLetterSpan (r.image + k * r.step) (r.image + k * r.step)

instance : Decidable r.IsLettered := inferInstanceAs (Decidable (_ ∨ _))

theorem CaseRun.IsLettered.isLetter (h : r.IsLettered) (hn : r.covers n) :
    isLetter (Char.ofNat (r.apply n)) := by
  obtain ⟨hfirst, hlast⟩ := of_covers hn
  rcases h with hspan | heach
  · exact isLetter_of_span hspan (Nat.le_add_right _ _) (by unfold apply; omega)
  · -- Every `step`th code point counts only, and the one in question is one of them.
    simp only [covers, Bool.and_eq_true, beq_iff_eq] at hn
    have hsteps : (n - r.first) / r.step * r.step = n - r.first :=
      Nat.div_mul_cancel (Nat.dvd_of_mod_eq_zero hn.2)
    have hspan := heach ((n - r.first) / r.step) (Nat.div_le_div_right (by omega))
    rw [hsteps] at hspan
    exact isLetter_of_span hspan (Nat.le_refl _) (Nat.le_refl _)

theorem upperRuns_lettered : ∀ r ∈ upperRuns, r.IsLettered := by decide +kernel

/-! ## Upper cases -/

theorem upperExpansions_lettered : ∀ e ∈ upperExpansions,
    (∃ n ∈ e.2.take 1, isLetter (Char.ofNat n)) ∧
      ∀ n ∈ e.2, isLetter (Char.ofNat n) ∨
        e.1 ∈ uncapitalized ∧ (Char.ofNat n).toNat ∈ accents := by
  decide +kernel

/-- What is not its own upper case becomes a letter, with letters and possibly accents behind it. -/
theorem upperChar_cases (c : Char) : upperChar c = [c] ∨ ∃ d ds, upperChar c = d :: ds ∧
    isLetter d ∧ ∀ a ∈ ds, isLetter a ∨ c.toNat ∈ uncapitalized ∧ a.toNat ∈ accents := by
  unfold upperChar mapCase
  split
  · next code image hfind =>
    have hcode : code = c.toNat := by simpa using List.find?_some hfind
    obtain ⟨⟨n, hn, hletter⟩, hall⟩ :=
      upperExpansions_lettered _ (List.mem_of_find?_eq_some hfind)
    cases image with
    | nil => cases hn
    | cons m rest =>
      obtain rfl : n = m := by simpa using hn
      refine .inr ⟨_, _, rfl, hletter, fun a ha => ?_⟩
      obtain ⟨k, hk, rfl⟩ := List.mem_map.1 ha
      exact hcode ▸ hall k (List.mem_cons_of_mem _ hk)
  · split
    · next r hfind =>
      have hcovers : r.covers c.toNat = true := by simpa using List.find?_some hfind
      have hlettered := upperRuns_lettered r (List.mem_of_find?_eq_some hfind)
      exact .inr ⟨_, [], rfl, hlettered.isLetter hcovers, nofun⟩
    · exact .inl rfl

end Text

/-! ## Identifiers -/

namespace Identifier

open Text

variable {c a : Char} {cs : List Char} {name : String}

theorem canStart_of_isLetter (h : isLetter c) : canStart c := by simp [canStart, h]

theorem canFollow_of_isLetter (h : isLetter c) : canFollow c := by
  simp [canFollow, isLetterOrNumber, h]

theorem canFollow_of_canStart (h : canStart c) : canFollow c := by
  rcases Bool.or_eq_true _ _ ▸ h with h | h
  · exact canFollow_of_isLetter h
  · simp [canFollow, h]

theorem isValidChars_iff :
    isValidChars cs ↔ (∃ c rest, cs = c :: rest ∧ canStart c) ∧ ∀ c ∈ cs, canFollow c := by
  cases cs with
  | nil => simp [isValidChars]
  | cons c rest =>
    simp only [isValidChars, Bool.and_eq_true, List.all_eq_true, List.forall_mem_cons]
    constructor
    · rintro ⟨hc, hrest⟩
      exact ⟨⟨c, rest, rfl, hc⟩, canFollow_of_canStart hc, hrest⟩
    · rintro ⟨⟨_, _, ⟨⟩, hc⟩, -, hrest⟩
      exact ⟨hc, hrest⟩

theorem mem_upperChar (hc : canFollow c) (ha : a ∈ upperChar c) :
    canFollow a ∨ c.toNat ∈ uncapitalized ∧ a.toNat ∈ accents := by
  rcases upperChar_cases c with heq | ⟨d, ds, heq, hd, hds⟩
  · rw [heq, List.mem_singleton] at ha
    exact .inl (ha ▸ hc)
  · rcases List.mem_cons.1 (heq ▸ ha) with rfl | hmem
    · exact .inl (canFollow_of_isLetter hd)
    · exact (hds a hmem).imp_left canFollow_of_isLetter

theorem exists_upperChar_eq_cons (hc : canStart c) :
    ∃ d ds, upperChar c = d :: ds ∧ canStart d := by
  rcases upperChar_cases c with heq | ⟨d, ds, heq, hd, -⟩
  · exact ⟨c, [], heq, hc⟩
  · exact ⟨d, ds, heq, canStart_of_isLetter hd⟩

theorem accented_of_uncapitalized :
    ∀ n ∈ uncapitalized, ¬(upperChar (Char.ofNat n)).all canFollow := by
  decide +kernel

theorem mem_upper (h : isValid name) (ha : a ∈ (upper name).toList) :
    canFollow a ∨ a.toNat ∈ accents := by
  rw [upper, String.toList_ofList] at ha
  obtain ⟨c, hc, ha⟩ := List.mem_flatMap.1 ha
  exact (mem_upperChar ((isValidChars_iff.1 h).2 c hc) ha).imp_right And.right

/-- The upper case of an identifier is one exactly if all its letters have a capital. -/
theorem isValid_upper_iff (h : isValid name) :
    isValid (upper name) ↔ ∀ c ∈ name.toList, c.toNat ∉ uncapitalized := by
  obtain ⟨⟨c, rest, hname, hc⟩, hall⟩ := isValidChars_iff.1 h
  rw [isValid, upper, String.toList_ofList, isValidChars_iff]
  constructor
  · rintro ⟨-, hupper⟩ c hc hun
    have haccented := accented_of_uncapitalized _ hun
    rw [Char.ofNat_toNat, List.all_eq_true] at haccented
    exact haccented fun a ha => hupper a (List.mem_flatMap.2 ⟨c, hc, ha⟩)
  · intro hcapital
    constructor
    · obtain ⟨d, ds, heq, hd⟩ := exists_upperChar_eq_cons hc
      exact ⟨d, ds ++ rest.flatMap upperChar, by rw [hname, List.flatMap_cons, heq]; rfl, hd⟩
    · intro a ha
      obtain ⟨b, hb, ha⟩ := List.mem_flatMap.1 ha
      exact (mem_upperChar (hall b hb) ha).resolve_right fun hun => hcapital b hb hun.1

end Identifier

/-! ## The column of a key query -/

namespace QuerySettings

variable {c : QuerySettings}

/-- With accepted settings the column that is asked for is an identifier, unless it is asked for in
capitals and a letter of the key column has none. What it has beyond an identifier are accents. -/
theorem isValid_column_iff (h : c.check = .ok ()) (dialect : Dialect) :
    let column := (QueryLookup.resources dialect c).column
    (Identifier.isValid column ↔
        dialect = .cypher ∨ ∀ a ∈ c.keyColumn.toList, a.toNat ∉ Text.uncapitalized) ∧
      ∀ a ∈ column.toList, Identifier.canFollow a ∨ a.toNat ∈ Text.accents := by
  have hname : Identifier.isValid c.keyColumn := (named_query h).keyColumn
  cases dialect with
  | sql =>
    refine ⟨?_, fun a ha => Identifier.mem_upper hname ha⟩
    rw [or_iff_right (by decide)]
    exact Identifier.isValid_upper_iff hname
  | cypher =>
    refine ⟨iff_of_true hname (.inl rfl), fun a ha => .inl ?_⟩
    exact (Identifier.isValidChars_iff.1 hname).2 a ha

def keyedBy (column : String) : QuerySettings :=
  { cacheName := "C", keyColumn := column, whereClause := "x = ?" }

/-- The sharp s becomes two letters, so the column that is asked for is an identifier still. -/
theorem isValid_column_iff_sharp : (keyedBy "straße").check = .ok () ∧
    (QueryLookup.resources .sql (keyedBy "straße")).column = "STRASSE" ∧
    Identifier.isValid (QueryLookup.resources .sql (keyedBy "straße")).column := by
  have hcheck : (keyedBy "straße").check = .ok () := by decide +kernel
  have hall : "straße".toList.all fun a => a.toNat ∉ Text.uncapitalized := by decide +kernel
  have hcapital : ∀ a ∈ "straße".toList, a.toNat ∉ Text.uncapitalized := by
    simpa only [List.all_eq_true, decide_eq_true_eq] using hall
  exact ⟨hcheck, by decide +kernel, (isValid_column_iff hcheck .sql).1.2 (.inr hcapital)⟩

/-- An iota with dialytika and tonos is accepted as a key column, and is asked for as an iota
followed by both accents. -/
theorem not_isValid_column : ¬ ∀ (c : QuerySettings) (dialect : Dialect), c.check = .ok () →
    Identifier.isValid (QueryLookup.resources dialect c).column := by
  intro h
  have hcheck : (keyedBy "\u0390").check = .ok () := by decide +kernel
  have hnot : ¬Identifier.isValid (QueryLookup.resources .sql (keyedBy "\u0390")).column := by
    decide +kernel
  exact hnot (h _ .sql hcheck)

end QuerySettings

end KeyedRecords
