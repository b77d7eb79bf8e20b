import Mathlib.Data.Finset.Card
import Mathlib.Data.List.Induction
import Mathlib.Data.List.Nodup

/-!
The members of a list, each where it first occurs, are what `List.eraseDups` leaves of the list
(`inFirstOrder_eraseDups`), and how many they are (`length_eraseDups`).
-/

namespace KeyedRecords

variable {α β : Type} [BEq α] [LawfulBEq α] [BEq β] [LawfulBEq β]

/-- `once` has the members of `items`, each where it first occurs: in front of it `once` has just
what `items` has in front of its first occurrence. -/
structure InFirstOrder (items once : List α) : Prop where
  mem_iff : ∀ {x : α}, x ∈ once ↔ x ∈ items
  first : ∀ {earlier later : List α} {x : α}, once = earlier ++ x :: later →
    ∃ before after, items = before ++ x :: after ∧ x ∉ before ∧ ∀ y, y ∈ earlier ↔ y ∈ before

variable {xs : List α} {x : α}

theorem eraseDups_concat_of_mem (h : x ∈ xs) : (xs ++ [x]).eraseDups = xs.eraseDups := by
  rw [List.eraseDups_append, List.removeAll, List.filter_cons_of_neg (by simpa using h)]
  exact List.append_nil _

theorem eraseDups_concat_of_not_mem (h : x ∉ xs) :
    (xs ++ [x]).eraseDups = xs.eraseDups ++ [x] := by
  rw [List.eraseDups_append, List.removeAll, List.filter_cons_of_pos (by simpa using h)]
  rfl

omit [BEq α] [LawfulBEq α] in
theorem nodup_concat_iff : (xs ++ [x]).Nodup ↔ x ∉ xs ∧ xs.Nodup := by
  rw [List.nodup_append_comm, List.singleton_append, List.nodup_cons]

theorem nodup_eraseDups (xs : List α) : xs.eraseDups.Nodup := by
  induction xs using List.reverseRecOn with
  | nil => exact List.nodup_nil
  | append_singleton xs x ih =>
    by_cases hx : x ∈ xs
    · rwa [eraseDups_concat_of_mem hx]
    · rw [eraseDups_concat_of_not_mem hx]
      exact nodup_concat_iff.2 ⟨mt List.mem_eraseDups.1 hx, ih⟩

theorem eraseDups_of_nodup (h : xs.Nodup) : xs.eraseDups = xs := by
  induction xs using List.reverseRecOn with
  | nil => rfl
  | append_singleton xs x ih =>
    obtain ⟨hx, hxs⟩ := nodup_concat_iff.1 h
    rw [eraseDups_concat_of_not_mem hx, ih hxs]

theorem eraseDups_filter (p : α → Bool) (xs : List α) :
    (xs.filter p).eraseDups = xs.eraseDups.filter p := by
  induction xs using List.reverseRecOn with
  | nil => rfl
  | append_singleton xs x ih =>
    rw [List.filter_append]
    by_cases hp : p x
    · have hfilter : [x].filter p = [x] := by simp [hp]
      by_cases hx : x ∈ xs
      · rw [hfilter, eraseDups_concat_of_mem hx,
          eraseDups_concat_of_mem (List.mem_filter.2 ⟨hx, hp⟩), ih]
      · rw [hfilter, eraseDups_concat_of_not_mem hx,
          eraseDups_concat_of_not_mem fun hmem => hx (List.mem_filter.1 hmem).1, ih,
          List.filter_append, hfilter]
    · have hfilter : [x].filter p = [] := by simp [hp]
      rw [hfilter, List.append_nil, ih]
      by_cases hx : x ∈ xs
      · rw [eraseDups_concat_of_mem hx]
      · rw [eraseDups_concat_of_not_mem hx, List.filter_append, hfilter, List.append_nil]

theorem eraseDups_map {f : α → β} (hf : Function.Injective f) (xs : List α) :
    (xs.map f).eraseDups = xs.eraseDups.map f := by
  induction xs using List.reverseRecOn with
  | nil => rfl
  | append_singleton xs x ih =>
    rw [List.map_append, List.map_singleton]
    by_cases hx : x ∈ xs
    · rw [eraseDups_concat_of_mem hx, eraseDups_concat_of_mem (List.mem_map_of_mem hx), ih]
    · rw [eraseDups_concat_of_not_mem hx,
        eraseDups_concat_of_not_mem (mt (List.mem_map_of_injective hf).1 hx), ih,
        List.map_append, List.map_singleton]

theorem inFirstOrder_eraseDups (items : List α) : InFirstOrder items items.eraseDups where
  mem_iff := List.mem_eraseDups
  first := by
    induction items using List.reverseRecOn with
    | nil =>
      intro earlier later x h
      simp at h
    | append_singleton items z ih =>
      intro earlier later x h
      by_cases hz : z ∈ items
      · rw [eraseDups_concat_of_mem hz] at h
        obtain ⟨before, after, rfl, hx, hmem⟩ := ih h
        exact ⟨before, after ++ [z], by simp, hx, hmem⟩
      · rw [eraseDups_concat_of_not_mem hz] at h
        -- A new member comes last, so `x` is this one or has its place among the others.
        rcases List.eq_nil_or_concat later with rfl | ⟨later, w, rfl⟩
        · obtain ⟨rfl, hxz⟩ := List.append_inj' h rfl
          cases hxz
          exact ⟨items, [], rfl, hz, fun y => List.mem_eraseDups⟩
        · have hsplit : items.eraseDups ++ [z] = (earlier ++ x :: later) ++ [w] := by
            simpa using h
          obtain ⟨hfront, -⟩ := List.append_inj' hsplit rfl
          obtain ⟨before, after, rfl, hx, hmem⟩ := ih hfront
          exact ⟨before, after ++ [z], by simp, hx, hmem⟩

theorem length_eraseDups [DecidableEq α] (xs : List α) :
    xs.eraseDups.length = xs.toFinset.card := by
  have hset : xs.eraseDups.toFinset = xs.toFinset := by
    ext x
    rw [List.mem_toFinset, List.mem_toFinset, List.mem_eraseDups]
  rw [← hset, List.toFinset_card_of_nodup (nodup_eraseDups xs)]

end KeyedRecords
