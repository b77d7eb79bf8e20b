import Mathlib.Data.List.DropRight
import Mathlib.Data.String.Basic
import KeyedRecords.Text.Blank

/-!
What trimming leaves of a text: the one text without white space at its ends that the text is with
white space around it (`trim_eq_iff`).
-/

namespace KeyedRecords

theorem span_append {α : Type} {p : α → Bool} {xs ys : List α} (hxs : ∀ x ∈ xs, p x)
    (hys : ∀ y ∈ ys.head?, ¬p y) :
    (xs ++ ys).takeWhile p = xs ∧ (xs ++ ys).dropWhile p = ys := by
  rw [List.takeWhile_append_of_pos hxs, List.dropWhile_append_of_pos hxs]
  cases ys with
  | nil => simp
  | cons y ys =>
    have hy : ¬p y := hys y rfl
    simp [hy]

namespace Text

variable {s t : String} {cs before after : List Char}

/-- No white space stands at either end. -/
structure Bare (s : String) : Prop where
  head : ∀ c ∈ s.toList.head?, ¬isBlank c
  last : ∀ c ∈ s.toList.getLast?, ¬isBlank c

/-- The second text is the first with any white space before and after it. -/
inductive Pads (s t : String) : Prop
  | intro (before after : List Char) (pieces : t.toList = before ++ (s.toList ++ after))
    (blank_before : ∀ c ∈ before, isBlank c) (blank_after : ∀ c ∈ after, isBlank c) : Pads s t

theorem bare_of_forall_not_isBlank (h : ∀ c ∈ s.toList, ¬isBlank c) : Bare s where
  head := fun c hc => h c (List.mem_of_mem_head? hc)
  last := fun c hc => h c (List.mem_of_mem_getLast? hc)

/-! ## One end after the other -/

theorem not_of_mem_head?_dropWhile {p : Char → Bool} {c : Char}
    (hc : c ∈ (cs.dropWhile p).head?) : ¬p c := by
  intro hp
  have hnot := List.head?_dropWhile_not p cs
  rw [Option.mem_def.1 hc] at hnot
  simp [hp] at hnot

theorem dropEndWhile_append {p : Char → Bool} (hcs : ∀ c ∈ cs.getLast?, ¬p c)
    (hafter : ∀ c ∈ after, p c) : dropEndWhile p (cs ++ after) = cs := by
  have hreverse : ∀ c ∈ after.reverse, p c := fun c hc => hafter c (List.mem_reverse.1 hc)
  have hlast : ∀ c ∈ cs.reverse.head?, ¬p c := by rwa [List.head?_reverse]
  rw [dropEndWhile, List.reverse_append, (span_append hreverse hlast).2, List.reverse_reverse]

theorem trimChars_append (hs : Bare s) (hbefore : ∀ c ∈ before, isBlank c)
    (hafter : ∀ c ∈ after, isBlank c) : trimChars (before ++ (s.toList ++ after)) = s.toList := by
  cases hcs : s.toList with
  | nil =>
    -- Nothing shows, so the white space before is not told from that after.
    refine trimChars_eq_nil_iff.2 fun c hc => ?_
    exact (List.mem_append.1 hc).elim (hbefore c) (hafter c)
  | cons c rest =>
    have hhead : ∀ d ∈ ((c :: rest) ++ after).head?, ¬isBlank d := by
      intro d hd
      exact hs.head d (by rw [hcs]; exact hd)
    have hlast : ∀ d ∈ (c :: rest).getLast?, ¬isBlank d := hcs ▸ hs.last
    rw [trimChars, (span_append hbefore hhead).2, dropEndWhile_append hlast hafter]

theorem bare_trim (s : String) : Bare (trim s) := by
  constructor
  · intro c hc
    rw [trim, String.toList_ofList, trimChars] at hc
    obtain ⟨suffix, hsuffix⟩ : dropEndWhile isBlank (s.toList.dropWhile isBlank) <+:
        s.toList.dropWhile isBlank :=
      List.rdropWhile_prefix isBlank _
    have hhead : c ∈ (s.toList.dropWhile isBlank).head? := by
      rw [← hsuffix, List.head?_append, Option.mem_def.1 hc]
      rfl
    exact not_of_mem_head?_dropWhile hhead
  · intro c hc
    rw [trim, String.toList_ofList, trimChars, dropEndWhile, List.getLast?_reverse] at hc
    exact not_of_mem_head?_dropWhile hc

theorem pads_trim (s : String) : Pads (trim s) s := by
  have hfront : s.toList = s.toList.takeWhile isBlank ++ s.toList.dropWhile isBlank :=
    List.takeWhile_append_dropWhile.symm
  have hback : s.toList.dropWhile isBlank = trimChars s.toList ++
      (s.toList.dropWhile isBlank).rtakeWhile isBlank :=
    (List.rdropWhile_append_rtakeWhile ..).symm
  refine .intro (s.toList.takeWhile isBlank) ((s.toList.dropWhile isBlank).rtakeWhile isBlank) ?_
    (List.all_eq_true.1 List.all_takeWhile) (fun c hc => List.mem_rtakeWhile_imp hc)
  rw [trim, String.toList_ofList, ← hback]
  exact hfront

theorem trim_eq_iff : trim t = s ↔ Bare s ∧ Pads s t := by
  constructor
  · rintro rfl
    exact ⟨bare_trim t, pads_trim t⟩
  · rintro ⟨hs, before, after, pieces, hbefore, hafter⟩
    rw [trim, pieces, trimChars_append hs hbefore hafter, String.ofList_toList]

theorem Bare.trim_eq (h : Bare s) : trim s = s :=
  trim_eq_iff.2 ⟨h, .intro [] [] (by simp) nofun nofun⟩

end Text

end KeyedRecords
