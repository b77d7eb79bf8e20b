import Mathlib.Data.List.Duplicate
import Mathlib.Data.List.Sort
import Mathlib.Data.Nat.Digits.Defs
import Mathlib.Order.Bounds.Basic
import KeyedRecords.Query.Arguments

/-!
What the extraction of arguments answers, told by the names of the coordinates alone (`Extracts`).
A position past 64 bits comes before one that is given twice, and of those the least is reported.
The order of the coordinates decides at most which of several names past 64 bits is reported
(`Extracts.eq_or_past`).
-/

namespace KeyedRecords

namespace Text

theorem digitsValue_eq_ofDigits (cs : List Char) :
    digitsValue cs = Nat.ofDigits 10 (cs.reverse.map digitValue) := by
  rw [digitsValue, List.foldl_eq_foldr_reverse, Nat.ofDigits_eq_foldr, List.foldr_map]
  simp only [Nat.cast_id, Nat.add_comm (digitValue _)]

theorem numeral?_eq_some_iff {cs : List Char} {n : Nat} : numeral? cs = some n ↔
    cs ≠ [] ∧ (∀ d ∈ cs, '0' ≤ d ∧ d ≤ '9') ∧ n = Nat.ofDigits 10 (cs.reverse.map digitValue) := by
  rw [numeral?, ← digitsValue_eq_ofDigits, eq_comm (a := n)]
  simp [isDigit, and_assoc]

end Text

namespace Arguments

variable {c c' : Coordinates} {name : String} {n : Nat} {v : Value} {e : LookupError}
  {ps : List (String × Value)} {args args' : Arguments}
  {answer answer' : Except LookupError Arguments}

/-! ## The names of arguments -/

/-- The name is `arg` followed by one or more digits, and `n` is the number that these denote. -/
def Names (name : String) (n : Nat) : Prop :=
  ∃ digits : List Char, digits ≠ [] ∧ (∀ d ∈ digits, '0' ≤ d ∧ d ≤ '9') ∧
    name = "arg" ++ String.ofList digits ∧
    n = Nat.ofDigits 10 (digits.reverse.map fun d => d.toNat - '0'.toNat)

theorem toList_arg_append (digits : List Char) :
    ("arg" ++ String.ofList digits).toList = 'a' :: 'r' :: 'g' :: digits := by
  simp [String.toList_append]

theorem position?_eq_some_iff : position? name = some n ↔ Names name n := by
  constructor
  · intro h
    unfold position? at h
    split at h
    · next digits hname =>
      obtain ⟨hne, hdigits, hn⟩ := Text.numeral?_eq_some_iff.1 h
      refine ⟨digits, hne, hdigits, String.toList_inj.1 ?_, hn⟩
      rw [hname, toList_arg_append]
    · cases h
  · rintro ⟨digits, hne, hdigits, rfl, hn⟩
    rw [position?, toList_arg_append]
    exact Text.numeral?_eq_some_iff.2 ⟨hne, hdigits, hn⟩

/-- Among the coordinates is an argument of that name and position. -/
def Given (c : Coordinates) (name : String) (n : Nat) : Prop := name ∈ c.keys ∧ Names name n

/-- The argument's position is past 64 bits. -/
def Past (c : Coordinates) (name : String) : Prop := ∃ n, Given c name n ∧ Text.maxWord < n

/-- Two arguments have the position. -/
def Twice (c : Coordinates) (n : Nat) : Prop :=
  ∃ name name', name ≠ name' ∧ Given c name n ∧ Given c name' n

/-- What the extraction has to answer: an argument past 64 bits; if there is none, the least
position that is given twice; if there is none of these either, the arguments in ascending order. -/
structure Extracts (c : Coordinates) (answer : Except LookupError Arguments) : Prop where
  past : (∃ name, Past c name) →
    ∃ name, Past c name ∧ answer = .error (.argument Text.maxWord (.outOfRange name))
  repeated : (¬ ∃ name, Past c name) → (∃ n, Twice c n) →
    ∃ n, IsLeast {n | Twice c n} n ∧ answer = .error (.argument n .repeated)
  listed : (¬ ∃ name, Past c name) → (¬ ∃ n, Twice c n) →
    ∃ args, answer = .ok args ∧ args.Pairwise (·.1 < ·.1) ∧
      ∀ n v, (n, v) ∈ args ↔ ∃ name, c.get? name = some v ∧ Names name n

/-! ## Collecting -/

/-- The argument that a coordinate is, however great its position. -/
def argument? (p : String × Value) : Option (Nat × Value) := (position? p.1).map (·, p.2)

theorem argument?_eq_some_iff {p : String × Value} :
    argument? p = some (n, v) ↔ Names p.1 n ∧ p.2 = v := by
  simp [argument?, position?_eq_some_iff]

theorem collect_eq_ok (h : collect ps = .ok args) :
    (∀ p ∈ ps, ∀ n, Names p.1 n → n ≤ Text.maxWord) ∧ args = ps.filterMap argument? := by
  simp only [← position?_eq_some_iff]
  fun_induction collect ps generalizing args with
  | case1 =>
    cases h
    simp
  | case2 name value rest hnone ih =>
    obtain ⟨hall, rfl⟩ := ih h
    exact ⟨List.forall_mem_cons.2 ⟨by simp [hnone], hall⟩, by simp [argument?, hnone]⟩
  | case3 name value rest n hn hle ih =>
    obtain ⟨args, hrest, rfl⟩ : ∃ args', collect rest = .ok args' ∧ (n, value) :: args' = args := by
      cases hrest : collect rest <;> simp_all [Except.map]
    obtain ⟨hall, rfl⟩ := ih hrest
    exact ⟨List.forall_mem_cons.2 ⟨by simp [hn, hle], hall⟩, by simp [argument?, hn]⟩
  | case4 => cases h

theorem collect_eq_error (h : collect ps = .error e) :
    ∃ p ∈ ps, ∃ n, Names p.1 n ∧ Text.maxWord < n ∧
      e = .argument Text.maxWord (.outOfRange p.1) := by
  simp only [← position?_eq_some_iff]
  fun_induction collect ps with
  | case1 => cases h
  | case2 name value rest hnone ih =>
    obtain ⟨p, hp, hpast⟩ := ih h
    exact ⟨p, List.mem_cons_of_mem _ hp, hpast⟩
  | case3 name value rest n hn hle ih =>
    have hrest : collect rest = .error e := by
      cases hrest : collect rest <;> simp_all [Except.map]
    obtain ⟨p, hp, hpast⟩ := ih hrest
    exact ⟨p, List.mem_cons_of_mem _ hp, hpast⟩
  | case4 name value rest n hn hgt =>
    cases h
    exact ⟨_, List.mem_cons_self, n, hn, Nat.lt_of_not_le hgt, rfl⟩

/-! ## Sorting and comparing neighbours -/

theorem sort_perm (args : Arguments) : (sort args).Perm args := List.mergeSort_perm ..

theorem pairwise_sort (args : Arguments) : (sort args).Pairwise (·.1 ≤ ·.1) := by
  have h : (sort args).Pairwise (fun a b => decide (a.1 ≤ b.1)) := by
    refine List.pairwise_mergeSort (fun a b d hab hbd => ?_) (fun a b => ?_) args
    · exact decide_eq_true (Nat.le_trans (of_decide_eq_true hab) (of_decide_eq_true hbd))
    · simpa using Nat.le_total a.1 b.1
  exact h.imp of_decide_eq_true

theorem pairwise_lt_of_repeated? (hle : args.Pairwise (·.1 ≤ ·.1)) (h : repeated? args = none) :
    args.Pairwise (·.1 < ·.1) := by
  fun_induction repeated? args with
  | case1 => cases h
  | case2 a b rest hne ih =>
    obtain ⟨ha, hle⟩ := List.pairwise_cons.1 hle
    have hlt := ih hle h
    have hab : a.1 < b.1 := Nat.lt_of_le_of_ne (ha b List.mem_cons_self) hne
    refine List.pairwise_cons.2 ⟨fun x hx => ?_, hlt⟩
    rcases List.mem_cons.1 hx with rfl | hx
    · exact hab
    · exact Nat.lt_trans hab (List.rel_of_pairwise_cons hlt hx)
  | case3 args hshort =>
    match args with
    | [] => exact .nil
    | [a] => exact List.pairwise_singleton _ a
    | a :: b :: rest => exact (hshort a b rest rfl).elim

/-- Of a sorted list the first repeated position is the least. -/
theorem isLeast_of_repeated? (hle : args.Pairwise (·.1 ≤ ·.1)) (h : repeated? args = some n) :
    IsLeast {n | (args.map (·.1)).Duplicate n} n := by
  fun_induction repeated? args with
  | case1 a b rest heq =>
    cases h
    refine ⟨by simp [heq], fun m hm => ?_⟩
    obtain ⟨x, hx, rfl⟩ := List.mem_map.1 (List.Duplicate.mem hm)
    rcases List.mem_cons.1 hx with rfl | hx
    · exact Nat.le_refl _
    · exact List.rel_of_pairwise_cons hle hx
  | case2 a b rest hne ih =>
    obtain ⟨ha, hle⟩ := List.pairwise_cons.1 hle
    have hfirst : a.1 ∉ (b :: rest).map (·.1) := by
      intro hmem
      obtain ⟨x, hx, hxa⟩ := List.mem_map.1 hmem
      have hab := ha b List.mem_cons_self
      rcases List.mem_cons.1 hx with rfl | hx
      · exact hne hxa.symm
      · have hbx : b.1 ≤ x.1 := List.rel_of_pairwise_cons hle hx
        exact hne (Nat.le_antisymm hab (hxa ▸ hbx))
    have hset : {n | ((a :: b :: rest).map (·.1)).Duplicate n} =
        {n | ((b :: rest).map (·.1)).Duplicate n} := by
      ext m
      rw [Set.mem_ofPred_eq, List.map_cons, List.duplicate_cons_iff, Set.mem_ofPred_eq]
      exact or_iff_right fun hm => hfirst (hm.1 ▸ hm.2)
    rw [hset]
    exact ih hle h
  | case3 => cases h

/-! ## Positions that are given twice -/

theorem duplicate_filterMap_iff {α : Type} {f : α → Option Nat} {xs : List α} (hd : xs.Nodup) :
    (xs.filterMap f).Duplicate n ↔ ∃ x ∈ xs, ∃ y ∈ xs, x ≠ y ∧ f x = some n ∧ f y = some n := by
  induction xs with
  | nil => simp
  | cons x xs ih =>
    obtain ⟨hx, hd⟩ := List.nodup_cons.1 hd
    constructor
    · intro h
      have hcases : (f x = some n ∧ n ∈ xs.filterMap f) ∨ (xs.filterMap f).Duplicate n := by
        cases hfx : f x with
        | none => exact .inr (by rwa [List.filterMap_cons_none hfx] at h)
        | some m => simpa [List.filterMap_cons_some hfx, List.duplicate_cons_iff] using h
      rcases hcases with ⟨hfx, hmem⟩ | h
      · obtain ⟨y, hy, hfy⟩ := List.mem_filterMap.1 hmem
        have hne : x ≠ y := fun heq => hx (heq ▸ hy)
        exact ⟨x, List.mem_cons_self, y, List.mem_cons_of_mem _ hy, hne, hfx, hfy⟩
      · obtain ⟨y, hy, z, hz, hyz⟩ := (ih hd).1 h
        exact ⟨y, List.mem_cons_of_mem _ hy, z, List.mem_cons_of_mem _ hz, hyz⟩
    · rintro ⟨y, hy, z, hz, hne, hfy, hfz⟩
      -- The first of the two is followed by the other, whichever of them it is.
      have hfirst : ∀ w ∈ xs, f x = some n → f w = some n →
          ((x :: xs).filterMap f).Duplicate n := by
        intro w hw hfx hfw
        rw [List.filterMap_cons_some hfx]
        exact (List.mem_filterMap.2 ⟨w, hw, hfw⟩).duplicate_cons_self
      rcases List.mem_cons.1 hy with rfl | hy' <;> rcases List.mem_cons.1 hz with rfl | hz'
      · exact (hne rfl).elim
      · exact hfirst z hz' hfy hfz
      · exact hfirst y hy' hfz hfy
      · have h := (ih hd).2 ⟨y, hy', z, hz', hne, hfy, hfz⟩
        exact h.mono_sublist ((List.sublist_cons_self x xs).filterMap f)

theorem twice_iff_duplicate :
    Twice c n ↔ ((c.pairs.filterMap argument?).map (·.1)).Duplicate n := by
  have hkeys : (c.pairs.filterMap argument?).map (·.1) = c.keys.filterMap position? := by
    rw [List.map_filterMap, Keyed.keys, List.filterMap_map]
    congr
    funext p
    simp [argument?, Function.comp_def]
  rw [hkeys, Keyed.keys, duplicate_filterMap_iff c.distinct]
  simp only [Twice, Given, position?_eq_some_iff]
  constructor
  · rintro ⟨name, name', hne, ⟨hmem, hname⟩, hmem', hname'⟩
    exact ⟨name, hmem, name', hmem', hne, hname, hname'⟩
  · rintro ⟨name, hmem, name', hmem', hne, hname, hname'⟩
    exact ⟨name, name', hne, ⟨hmem, hname⟩, hmem', hname'⟩

theorem duplicate_sort : ((sort args).map (·.1)).Duplicate n ↔ (args.map (·.1)).Duplicate n := by
  rw [List.duplicate_iff_two_le_count, List.duplicate_iff_two_le_count,
    ((sort_perm args).map (·.1)).count_eq]

/-! ## The answer -/

theorem mem_filterMap_argument? :
    (n, v) ∈ c.pairs.filterMap argument? ↔ ∃ name, c.get? name = some v ∧ Names name n := by
  simp only [List.mem_filterMap, argument?_eq_some_iff, ← Keyed.mem_pairs_iff]
  constructor
  · rintro ⟨⟨name, _⟩, hmem, hname, rfl⟩
    exact ⟨name, hmem, hname⟩
  · rintro ⟨name, hmem, hname⟩
    exact ⟨(name, v), hmem, hname, rfl⟩

theorem extracts (c : Coordinates) : Extracts c (extract c) := by
  cases hcollect : collect c.pairs with
  | error e =>
    obtain ⟨p, hp, n, hname, hgt, rfl⟩ := collect_eq_error hcollect
    have hpast : Past c p.1 := ⟨n, ⟨List.mem_map_of_mem hp, hname⟩, hgt⟩
    exact {
      past := fun _ => ⟨p.1, hpast, by simp only [extract, hcollect]⟩
      repeated := fun hno => (hno ⟨p.1, hpast⟩).elim
      listed := fun hno => (hno ⟨p.1, hpast⟩).elim }
  | ok args =>
    obtain ⟨hle, rfl⟩ := collect_eq_ok hcollect
    have hno : ¬ ∃ name, Past c name := by
      rintro ⟨name, n, ⟨hmem, hname⟩, hgt⟩
      obtain ⟨p, hp, rfl⟩ := List.mem_map.1 hmem
      exact Nat.not_le_of_lt hgt (hle p hp n hname)
    have htwice : ∀ n, ((sort (c.pairs.filterMap argument?)).map (·.1)).Duplicate n ↔ Twice c n :=
      fun n => duplicate_sort.trans twice_iff_duplicate.symm
    have hsorted := pairwise_sort (c.pairs.filterMap argument?)
    cases hrepeated : repeated? (sort (c.pairs.filterMap argument?)) with
    | some n =>
      have hleast : IsLeast {n | Twice c n} n := by
        simpa only [htwice] using isLeast_of_repeated? hsorted hrepeated
      exact {
        past := fun h => (hno h).elim
        repeated := fun _ _ => ⟨n, hleast, by simp only [extract, hcollect, hrepeated]⟩
        listed := fun _ h => (h ⟨n, hleast.1⟩).elim }
    | none =>
      have hlt := pairwise_lt_of_repeated? hsorted hrepeated
      have hnodup : ((sort (c.pairs.filterMap argument?)).map (·.1)).Nodup :=
        List.pairwise_map.2 (hlt.imp Nat.ne_of_lt)
      exact {
        past := fun h => (hno h).elim
        repeated := fun _ ⟨n, h⟩ =>
          (List.nodup_iff_forall_not_duplicate.1 hnodup n ((htwice n).2 h)).elim
        listed := fun _ _ => ⟨_, by simp only [extract, hcollect, hrepeated], hlt,
          fun n v => (sort_perm _).mem_iff.trans mem_filterMap_argument?⟩ }

/-! ## The order of the coordinates -/

instance : Std.Irrefl fun a b : Nat × Value => a.1 < b.1 := ⟨fun a => Nat.lt_irrefl a.1⟩

instance : Std.Antisymm fun a b : Nat × Value => a.1 < b.1 :=
  ⟨fun _ _ hab hba => (Nat.lt_asymm hab hba).elim⟩

/-- Only several arguments past 64 bits leave a choice. -/
theorem Extracts.eq_or_past (h : Extracts c answer) (h' : Extracts c answer') : answer' = answer ∨
    ∃ name name', name ≠ name' ∧ Past c name ∧ Past c name' ∧
      answer = .error (.argument Text.maxWord (.outOfRange name)) ∧
      answer' = .error (.argument Text.maxWord (.outOfRange name')) := by
  by_cases hpast : ∃ name, Past c name
  · obtain ⟨name, hname, rfl⟩ := h.past hpast
    obtain ⟨name', hname', rfl⟩ := h'.past hpast
    by_cases heq : name = name'
    · exact .inl (by rw [heq])
    · exact .inr ⟨name, name', heq, hname, hname', rfl, rfl⟩
  by_cases htwice : ∃ n, Twice c n
  · obtain ⟨n, hleast, rfl⟩ := h.repeated hpast htwice
    obtain ⟨n', hleast', rfl⟩ := h'.repeated hpast htwice
    exact .inl (by rw [hleast.unique hleast'])
  · obtain ⟨args, rfl, hlt, hmem⟩ := h.listed hpast htwice
    obtain ⟨args', rfl, hlt', hmem'⟩ := h'.listed hpast htwice
    have hargs : args' = args :=
      hlt'.eq_of_mem_iff hlt fun (n, v) => (hmem' n v).trans (hmem n v).symm
    exact .inl (by rw [hargs])

theorem Extracts.of_perm (hperm : c'.pairs.Perm c.pairs) (h : Extracts c' answer) :
    Extracts c answer := by
  have hgiven : Given c' = Given c := by
    funext name n
    rw [Given, Given, Keyed.keys, Keyed.keys, (hperm.map _).mem_iff]
  have hpast : Past c' = Past c := by
    funext name
    rw [Past, Past, hgiven]
  have htwice : Twice c' = Twice c := by
    funext n
    rw [Twice, Twice, hgiven]
  obtain ⟨hp, hr, hl⟩ := h
  rw [hpast] at hp
  rw [hpast, htwice] at hr hl
  simp only [Keyed.get?_eq_of_perm hperm] at hl
  exact ⟨hp, hr, hl⟩

/-- A position past 64 bits is reported before one that is given twice, and the least of these
before any argument is returned. In another order the coordinates have the same answer, but of
several names past 64 bits another may be reported. -/
theorem extract_in_any_order (c : Coordinates) : Extracts c (extract c) ∧
    ∀ c' : Coordinates, c'.pairs.Perm c.pairs → extract c' = extract c ∨
      ∃ name name', name ≠ name' ∧ Past c name ∧ Past c name' ∧
        extract c = .error (.argument Text.maxWord (.outOfRange name)) ∧
        extract c' = .error (.argument Text.maxWord (.outOfRange name')) :=
  ⟨extracts c, fun c' hperm => (extracts c).eq_or_past ((extracts c').of_perm hperm)⟩

/-- Two names past 64 bits, and two of one position. -/
def crowded : Coordinates :=
  ⟨[("arg99999999999999999999", .long 1), ("arg1", .long 2), ("arg01", .long 3),
    ("arg88888888888888888888", .long 4)], by decide⟩

def crowdedBackwards : Coordinates := ⟨crowded.pairs.reverse, by decide⟩

/-- Two positions that are given twice, the greater first. -/
def doubled : Coordinates :=
  ⟨[("arg7", .long 1), ("arg2", .long 2), ("arg07", .long 3), ("arg002", .long 4)], by decide⟩

theorem extract_in_any_order_crowded : crowdedBackwards.pairs.Perm crowded.pairs ∧
    (∃ name name', name ≠ name' ∧ Past crowded name ∧ Past crowded name' ∧
      extract crowded = .error (.argument Text.maxWord (.outOfRange name)) ∧
      extract crowdedBackwards = .error (.argument Text.maxWord (.outOfRange name'))) ∧
    ∃ n, IsLeast {n | Twice doubled n} n ∧ extract doubled = .error (.argument n .repeated) := by
  have hperm : crowdedBackwards.pairs.Perm crowded.pairs := List.reverse_perm _
  have hne : extract crowdedBackwards ≠ extract crowded := by decide
  have hinRange : ¬ ∃ name, Past doubled name := by
    rintro ⟨name, n, ⟨hmem, hname⟩, hgt⟩
    have hall : ∀ name ∈ doubled.keys, ∀ n ∈ position? name, n ≤ Text.maxWord := by decide
    exact Nat.not_le_of_lt hgt (hall name hmem n (position?_eq_some_iff.2 hname))
  have htwice : Twice doubled 7 :=
    ⟨"arg7", "arg07", by decide, ⟨by decide, position?_eq_some_iff.1 (by decide)⟩,
      ⟨by decide, position?_eq_some_iff.1 (by decide)⟩⟩
  exact ⟨hperm, ((extract_in_any_order crowded).2 crowdedBackwards hperm).resolve_left hne,
    (extract_in_any_order doubled).1.repeated hinRange ⟨7, htwice⟩⟩

example : extract doubled = .error (.argument 2 .repeated) := by cbv

end Arguments

end KeyedRecords
