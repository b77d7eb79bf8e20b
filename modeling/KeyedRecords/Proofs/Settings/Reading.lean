import KeyedRecords.Proofs.Query.Delivery
import KeyedRecords.Proofs.Query.Determinacy
import KeyedRecords.Proofs.Settings.Items
import KeyedRecords.Proofs.Settings.Periods
import KeyedRecords.Settings.Properties

/-!
Single settings read from properties. White space around a text makes no difference to what is read
(`Properties.Pads.optional?_eq`), and counts, truth values and periods have texts that are read as
what they are the texts of.
-/

namespace KeyedRecords

/-! ## Texts -/

namespace Text

variable {c : Char} {n limit : Nat}

/-- The ranges of white space. -/
def blankRanges : List (Nat × Nat) :=
  [(9, 13), (0x20, 0x20), (0x85, 0x85), (0xA0, 0xA0), (0x1680, 0x1680), (0x2000, 0x200A),
   (0x2028, 0x2029), (0x202F, 0x202F), (0x205F, 0x205F), (0x3000, 0x3000)]

/-- None of the ranges meets one of the others. -/
def areDisjoint (ranges others : List (Nat × Nat)) : Bool :=
  ranges.all fun r => others.all fun o => r.2.blt o.1 || o.2.blt r.1

theorem not_inRanges_of_areDisjoint {ranges others : List (Nat × Nat)}
    (h : areDisjoint ranges others) (hc : inRanges ranges c) : ¬inRanges others c := by
  intro hother
  obtain ⟨r, hr, hin⟩ := List.any_eq_true.1 hc
  obtain ⟨o, ho, hother⟩ := List.any_eq_true.1 hother
  have happart := List.all_eq_true.1 (List.all_eq_true.1 h r hr) o ho
  simp only [Bool.and_eq_true, decide_eq_true_eq] at hin hother
  simp only [Bool.or_eq_true, Nat.blt_eq] at happart
  omega

theorem inRanges_of_isBlank (h : isBlank c) : inRanges blankRanges c := by
  simp only [isBlank, Bool.or_eq_true, Bool.and_eq_true, decide_eq_true_eq, beq_iff_eq] at h
  simp only [inRanges, blankRanges, List.any_cons, List.any_nil, Bool.or_eq_true, Bool.and_eq_true,
    decide_eq_true_eq, Bool.false_eq_true, or_false]
  omega

theorem not_isBlank_of_isLetterOrNumber (h : isLetterOrNumber c) : ¬isBlank c := by
  have hletters : areDisjoint letterRanges blankRanges := by decide +kernel
  have hnumbers : areDisjoint numberRanges blankRanges := by decide +kernel
  intro hblank
  rcases Bool.or_eq_true_iff.1 h with h | h
  · exact not_inRanges_of_areDisjoint hletters h (inRanges_of_isBlank hblank)
  · exact not_inRanges_of_areDisjoint hnumbers h (inRanges_of_isBlank hblank)

theorem isDigit_of_mem_decimal (h : c ∈ (decimal n).toList) : isDigit c := by
  rw [decimal, String.toList_ofList] at h
  exact isDigit_iff.2 ((numeral?_eq_some_iff.1 (Arguments.numeral?_toDigits n)).2.1 c h)

theorem decimal_ne_empty (n : Nat) : decimal n ≠ "" := by
  rw [decimal, ne_eq, String.ofList_eq_empty_iff]
  exact Nat.toDigits_ne_nil

theorem bare_decimal (n : Nat) : Bare (decimal n) :=
  bare_of_forall_not_isBlank fun _ hc => not_isBlank_of_isDigit (isDigit_of_mem_decimal hc)

theorem unsigned?_decimal (h : n ≤ limit) : unsigned? limit (decimal n) = some n := by
  have hnumeral : numeral? (decimal n).toList = some n := by
    rw [decimal, String.toList_ofList, Arguments.numeral?_toDigits]
  unfold unsigned?
  split
  · next rest hplus =>
    -- A plus sign is no digit.
    have hdigit : isDigit '+' := isDigit_of_mem_decimal (n := n) (hplus ▸ List.mem_cons_self)
    exact absurd hdigit (by decide)
  · simp [hnumeral, h]

end Text

namespace Identifier

variable {c : Char} {name : String}

theorem not_isBlank_of_canFollow (h : canFollow c) : ¬Text.isBlank c := by
  simp only [canFollow, Bool.or_eq_true, beq_iff_eq] at h
  obtain ((h | rfl) | rfl) | rfl := h
  · exact Text.not_isBlank_of_isLetterOrNumber h
  all_goals decide

theorem not_isBlank_of_isValid (h : isValid name) : ∀ c ∈ name.toList, ¬Text.isBlank c :=
  fun c hc => not_isBlank_of_canFollow ((isValidChars_iff.1 h).2 c hc)

theorem ne_empty_of_isValid (h : isValid name) : name ≠ "" := by
  rintro rfl
  cases h

theorem bare_of_isValid (h : isValid name) : Text.Bare name :=
  Text.bare_of_forall_not_isBlank (not_isBlank_of_isValid h)

theorem isItem_of_isValid (h : isValid name) : Items.IsItem name where
  shows := by
    rw [← Text.trim_eq_empty_iff, (bare_of_isValid h).trim_eq]
    exact ne_empty_of_isValid h
  bare := bare_of_isValid h
  comma_not_mem := not_mem_of_isValid h (by decide)

theorem bare_intercalate {names : List String} (h : ∀ name ∈ names, isValid name) :
    Text.Bare (",".intercalate names) := by
  refine Text.bare_of_forall_not_isBlank fun c hc hblank => not_mem_intercalate ?_ ?_ hc
  · intro hcomma
    obtain rfl : c = ',' := List.mem_singleton.1 hcomma
    cases hblank
  · exact fun name hname hc => not_isBlank_of_isValid (h name hname) c hc hblank

end Identifier

/-! ## Properties -/

namespace Properties

variable {ps padded : Properties} {texts : List (String × Option String)} {name text : String}
  {n : Nat}

/-- The properties that have a text. -/
def ofTexts : List (String × Option String) → Properties
  | [] => .empty
  | (_, none) :: rest => ofTexts rest
  | (name, some text) :: rest => (ofTexts rest).insert name text

/-- The second properties are the first with any white space around each text. -/
def Pads (ps padded : Properties) : Prop :=
  ∀ name, Option.Rel Text.Pads (ps.get? name) (padded.get? name)

/-- Each text shows, without white space around it. -/
def Trimmed (ps : Properties) : Prop :=
  ∀ name text, ps.get? name = some text → Text.Bare text ∧ text ≠ ""

theorem get?_ofTexts (hd : (texts.map (·.1)).Nodup) (name : String) :
    (ofTexts texts).get? name = (Keyed.valueIn name texts).join := by
  induction texts with
  | nil => rfl
  | cons p rest ih =>
    obtain ⟨k, text?⟩ := p
    obtain ⟨hk, hrest⟩ : k ∉ rest.map (·.1) ∧ (rest.map (·.1)).Nodup := List.nodup_cons.1 hd
    cases text? with
    | none =>
      rw [ofTexts, ih hrest, Keyed.valueIn]
      split
      · next heq =>
        subst heq
        rw [Keyed.valueIn_eq_none_iff.2 hk]
        rfl
      · rfl
    | some text =>
      rw [ofTexts, Keyed.get?_insert, ih hrest, Keyed.valueIn]
      split <;> rfl

theorem optional?_eq_some_iff : ps.optional? name = some text ↔
    ∃ padded, ps.get? name = some padded ∧ Text.Bare text ∧ Text.Pads text padded ∧ text ≠ "" := by
  have hne : ∀ text : String, (!text.isEmpty) = true ↔ text ≠ "" := by simp
  simp only [optional?, Option.filter_eq_some_iff, Option.map_eq_some_iff, Text.trim_eq_iff, hne]
  constructor
  · rintro ⟨⟨padded, hget, hbare, hpads⟩, hne⟩
    exact ⟨padded, hget, hbare, hpads, hne⟩
  · rintro ⟨padded, hget, hbare, hpads, hne⟩
    exact ⟨⟨padded, hget, hbare, hpads⟩, hne⟩

/-- Padding makes no difference to what is read. -/
theorem Pads.optional?_eq (h : ps.Pads padded) (hps : ps.Trimmed) (name : String) :
    padded.optional? name = ps.get? name := by
  have hname := h name
  cases hget : ps.get? name with
  | none =>
    rw [hget] at hname
    have hnone : padded.get? name = none := by
      generalize padded.get? name = text? at hname
      cases hname
      rfl
    rw [optional?, hnone]
    rfl
  | some text =>
    rw [hget] at hname
    obtain ⟨t, ht, hpads⟩ : ∃ t, padded.get? name = some t ∧ Text.Pads text t := by
      generalize padded.get? name = text? at hname
      cases hname with
      | some hpads => exact ⟨_, rfl, hpads⟩
    obtain ⟨hbare, hne⟩ := hps name text hget
    exact optional?_eq_some_iff.2 ⟨t, ht, hbare, hpads, hne⟩

/-- The properties with the same texts before and after each of theirs. -/
def between (before after : String) (ps : Properties) : Properties :=
  ps.mapValues fun _ text => before ++ text ++ after

theorem pads_between {before after : String} (hbefore : Text.allBlank before)
    (hafter : Text.allBlank after) (ps : Properties) : ps.Pads (ps.between before after) := by
  intro name
  rw [between, Keyed.get?_mapValues]
  cases ps.get? name with
  | none => exact .none
  | some text =>
    refine .some (.intro before.toList after.toList ?_ (List.all_eq_true.1 hbefore)
      (List.all_eq_true.1 hafter))
    rw [String.toList_append, String.toList_append, List.append_assoc]

theorem required_eq_ok_iff : ps.required name = .ok text ↔ ps.optional? name = some text := by
  unfold required
  cases ps.optional? name <;> simp

theorem bare_of_optional? (h : ps.optional? name = some text) : Text.Bare text := by
  obtain ⟨padded, -, hbare, -, -⟩ := optional?_eq_some_iff.1 h
  exact hbare

theorem le_of_count (h : ps.count name = .ok n) : n ≤ Text.maxWord := by
  unfold count at h
  split at h
  · cases h
    exact Nat.zero_le _
  · split at h
    · next hn =>
      cases h
      simpa using (Option.filter_eq_some_iff.1 hn).2
    · cases h

theorem count_of_optional? (h : ps.optional? name = some (Text.decimal n))
    (hn : n ≤ Text.maxWord) : ps.count name = .ok n := by
  simp only [count, h, Text.unsigned?_decimal hn]

theorem flag_of_optional? {b : Bool}
    (h : ps.optional? name = some (if b then "true" else "false")) : ps.flag name = .ok b := by
  have htrue : Text.lower "true" = "true" := by decide +kernel
  have hfalse : Text.lower "false" = "false" := by decide +kernel
  cases b with
  | true => simp only [flag, h, if_true, htrue]
  | false => simp only [flag, h, Bool.false_eq_true, if_false, hfalse]

end Properties

/-! ## Periods -/

namespace Period

variable {n : Nat}

/-- The text of a period of so many milliseconds. -/
def millisText (n : Nat) : String := Text.decimal n ++ " ms"

theorem toList_millisText (n : Nat) :
    (millisText n).toList = Nat.toDigits 10 n ++ [' ', 'm', 's'] := by
  simp [millisText, Text.decimal, String.toList_append]

theorem millisText_ne_empty (n : Nat) : millisText n ≠ "" := by
  rw [ne_eq, ← String.toList_inj, toList_millisText]
  simp

theorem bare_millisText (n : Nat) : Text.Bare (millisText n) where
  head := by
    intro c hc
    rw [toList_millisText, List.head?_append_of_ne_nil _ Nat.toDigits_ne_nil] at hc
    apply Text.not_isBlank_of_isDigit
    apply Text.isDigit_of_mem_decimal (n := n)
    rw [Text.decimal, String.toList_ofList]
    exact List.mem_of_mem_head? hc
  last := by
    intro c hc
    rw [toList_millisText, List.getLast?_append] at hc
    cases hc
    decide

theorem parse_millisText (h : n ≤ Text.maxWord) : parse (millisText n) = .ok (.ofMillis n) := by
  have hparts : parts? (millisText n).toList = some (n, "ms") := by
    have hnothing : ∀ c ∈ ([] : List Char), Text.isBlank c := nofun
    have hblank : ∀ c ∈ [' '], Text.isBlank c := List.forall_mem_singleton.2 rfl
    have hword : ∀ c ∈ ['m', 's'], isUnitLetter c :=
      List.forall_mem_cons.2 ⟨rfl, List.forall_mem_singleton.2 rfl⟩
    have hunit : (String.ofList ['m', 's']).toLower = "ms" := toLower_ofList _
    rw [toList_millisText, ← hunit]
    exact parts?_of_pieces hnothing (Arguments.numeral?_toDigits n) hblank hword hnothing
  have hspan : span? (millisText n) = some (.ofMillis n) := by
    have hunit : unitMillis? "ms" = some 1 := rfl
    simp [span?, hparts, hunit, h]
  rw [parse, hspan]

end Period

end KeyedRecords
