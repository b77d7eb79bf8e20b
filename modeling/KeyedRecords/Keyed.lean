/-!
Finite maps as lists of pairs without a repeated key. A look-up has at most one answer, and the
order of the pairs matters only to who enumerates them.
-/

namespace KeyedRecords

/-- A finite map, its pairs in some order. -/
structure Keyed (α β : Type) where
  pairs : List (α × β)
  distinct : (pairs.map (·.1)).Nodup

namespace Keyed

variable {α β : Type}

def keys (m : Keyed α β) : List α := m.pairs.map (·.1)

def size (m : Keyed α β) : Nat := m.pairs.length

def isEmpty (m : Keyed α β) : Bool := m.pairs.isEmpty

def empty : Keyed α β := ⟨[], by simp⟩

instance : EmptyCollection (Keyed α β) := ⟨empty⟩

instance : Inhabited (Keyed α β) := ⟨empty⟩

instance [DecidableEq α] [DecidableEq β] : DecidableEq (Keyed α β) := fun a b =>
  if h : a.pairs = b.pairs then
    isTrue (by cases a; cases b; cases h; rfl)
  else
    isFalse fun e => h (e ▸ rfl)

variable [DecidableEq α]

/-- The value of the first pair with key `k`. -/
def valueIn (k : α) : List (α × β) → Option β
  | [] => none
  | (k', v) :: rest => if k' = k then some v else valueIn k rest

/-- Puts `v` in the place of the pair with key `k`, or at the end if there is none. -/
def putIn (k : α) (v : β) : List (α × β) → List (α × β)
  | [] => [(k, v)]
  | (k', v') :: rest => if k' = k then (k, v) :: rest else (k', v') :: putIn k v rest

theorem keys_putIn (k : α) (v : β) (ps : List (α × β)) :
    (putIn k v ps).map (·.1) =
      if k ∈ ps.map (·.1) then ps.map (·.1) else ps.map (·.1) ++ [k] := by
  induction ps with
  | nil => simp [putIn]
  | cons p rest ih =>
    obtain ⟨k', v'⟩ := p
    by_cases h : k' = k
    · simp [putIn, h]
    · have h' : ¬k = k' := fun e => h e.symm
      simp only [putIn, h, if_false, List.map_cons, List.mem_cons, h', false_or, ih]
      split <;> simp

theorem nodup_keys_putIn (k : α) (v : β) {ps : List (α × β)} (h : (ps.map (·.1)).Nodup) :
    ((putIn k v ps).map (·.1)).Nodup := by
  rw [keys_putIn]
  split
  · exact h
  · next hk =>
    refine List.nodup_append.2 ⟨h, by simp, fun a ha b hb => ?_⟩
    rintro rfl
    exact hk (List.mem_singleton.1 hb ▸ ha)

theorem valueIn_putIn (k k' : α) (v : β) (ps : List (α × β)) :
    valueIn k' (putIn k v ps) = if k = k' then some v else valueIn k' ps := by
  induction ps with
  | nil => simp [putIn, valueIn]
  | cons p rest ih =>
    obtain ⟨a, b⟩ := p
    by_cases h : a = k <;> by_cases hk : k = k' <;> simp_all [putIn, valueIn]

theorem valueIn_eq_none_iff {k : α} {ps : List (α × β)} :
    valueIn k ps = none ↔ k ∉ ps.map (·.1) := by
  induction ps with
  | nil => simp [valueIn]
  | cons p rest ih =>
    obtain ⟨a, b⟩ := p
    by_cases h : a = k
    · simp [valueIn, h]
    · have h' : ¬k = a := fun e => h e.symm
      simp [valueIn, h, h', ih]

theorem valueIn_filter (k k' : α) (ps : List (α × β)) :
    valueIn k' (ps.filter (·.1 ≠ k)) = if k = k' then none else valueIn k' ps := by
  induction ps with
  | nil => simp [valueIn]
  | cons p rest ih =>
    obtain ⟨a, b⟩ := p
    by_cases h : a = k <;> by_cases hk : k = k' <;> simp_all [valueIn]

def get? (m : Keyed α β) (k : α) : Option β := valueIn k m.pairs

def contains (m : Keyed α β) (k : α) : Bool := (m.get? k).isSome

/-- Keeps the place of a key that is there; a new one comes last. -/
def insert (m : Keyed α β) (k : α) (v : β) : Keyed α β :=
  ⟨putIn k v m.pairs, nodup_keys_putIn k v m.distinct⟩

def erase (m : Keyed α β) (k : α) : Keyed α β :=
  ⟨m.pairs.filter (·.1 ≠ k), m.distinct.sublist (List.filter_sublist.map _)⟩

/-- The pairs that satisfy `p`. -/
def filter (m : Keyed α β) (p : α × β → Bool) : Keyed α β :=
  ⟨m.pairs.filter p, m.distinct.sublist (List.filter_sublist.map _)⟩

/-- Of two pairs with one key the later wins, in the place of the earlier. -/
def ofList (ps : List (α × β)) : Keyed α β :=
  ps.foldl (fun m p => m.insert p.1 p.2) empty

/-- Of two pairs with one key the earlier wins. -/
def ofFirst (ps : List (α × β)) : Keyed α β :=
  ps.foldl (fun m p => if m.contains p.1 then m else m.insert p.1 p.2) empty

omit [DecidableEq α] in
theorem keys_pairs_map {γ : Type} (ps : List (α × β)) (f : α → β → γ) :
    (ps.map fun p => (p.1, f p.1 p.2)).map (·.1) = ps.map (·.1) := by
  simp [Function.comp_def]

def mapValues {γ : Type} (m : Keyed α β) (f : α → β → γ) : Keyed α γ :=
  ⟨m.pairs.map fun p => (p.1, f p.1 p.2), by rw [keys_pairs_map]; exact m.distinct⟩

/-- Whether both maps hold the same pairs, in whatever order. -/
def sameAs [DecidableEq β] (a b : Keyed α β) : Bool :=
  a.size == b.size && a.pairs.all fun p => b.get? p.1 == some p.2

@[simp] theorem get?_empty (k : α) : (empty : Keyed α β).get? k = none := rfl

@[simp] theorem get?_insert (m : Keyed α β) (k k' : α) (v : β) :
    (m.insert k v).get? k' = if k = k' then some v else m.get? k' :=
  valueIn_putIn k k' v m.pairs

@[simp] theorem get?_erase (m : Keyed α β) (k k' : α) :
    (m.erase k).get? k' = if k = k' then none else m.get? k' :=
  valueIn_filter k k' m.pairs

theorem valueIn_map {γ : Type} (k : α) (ps : List (α × β)) (f : α → β → γ) :
    valueIn k (ps.map fun p => (p.1, f p.1 p.2)) = (valueIn k ps).map (f k) := by
  induction ps with
  | nil => rfl
  | cons p rest ih =>
    obtain ⟨a, b⟩ := p
    by_cases h : a = k
    · subst h; simp [valueIn]
    · simp [valueIn, h, ih]

@[simp] theorem get?_mapValues {γ : Type} (m : Keyed α β) (f : α → β → γ) (k : α) :
    (m.mapValues f).get? k = (m.get? k).map (f k) :=
  valueIn_map k m.pairs f

omit [DecidableEq α] in
@[simp] theorem keys_mapValues {γ : Type} (m : Keyed α β) (f : α → β → γ) :
    (m.mapValues f).keys = m.keys :=
  keys_pairs_map m.pairs f

theorem get?_eq_none_iff {m : Keyed α β} {k : α} : m.get? k = none ↔ k ∉ m.keys :=
  valueIn_eq_none_iff

theorem keys_insert (m : Keyed α β) (k : α) (v : β) :
    (m.insert k v).keys = if k ∈ m.keys then m.keys else m.keys ++ [k] :=
  keys_putIn k v m.pairs

theorem keys_erase (m : Keyed α β) (k : α) : (m.erase k).keys = m.keys.filter (· ≠ k) := by
  simp only [keys, erase, List.filter_map]
  rfl

omit [DecidableEq α] in
theorem size_eq_length_keys (m : Keyed α β) : m.size = m.keys.length := by simp [size, keys]

theorem mem_keys_iff {m : Keyed α β} {k : α} : k ∈ m.keys ↔ ∃ v, m.get? k = some v := by
  rw [← Option.ne_none_iff_exists', ne_eq, get?_eq_none_iff, Decidable.not_not]

theorem mem_of_valueIn {k : α} {v : β} {ps : List (α × β)} (h : valueIn k ps = some v) :
    (k, v) ∈ ps := by
  induction ps with
  | nil => cases h
  | cons p rest ih =>
    obtain ⟨a, b⟩ := p
    by_cases ha : a = k
    · subst ha
      simp only [valueIn, if_true, Option.some.injEq] at h
      exact h ▸ List.mem_cons_self
    · simp only [valueIn, ha, if_false] at h
      exact List.mem_cons_of_mem _ (ih h)

theorem valueIn_of_mem {k : α} {v : β} {ps : List (α × β)} (hd : (ps.map (·.1)).Nodup)
    (h : (k, v) ∈ ps) : valueIn k ps = some v := by
  induction ps with
  | nil => cases h
  | cons p rest ih =>
    obtain ⟨a, b⟩ := p
    obtain ⟨ha, hd⟩ := List.nodup_cons.1 hd
    rcases List.mem_cons.1 h with h | h
    · cases h
      simp [valueIn]
    · have hne : a ≠ k := by
        rintro rfl
        exact ha (List.mem_map.2 ⟨_, h, rfl⟩)
      simp only [valueIn, hne, if_false]
      exact ih hd h

theorem mem_pairs_iff {m : Keyed α β} {k : α} {v : β} : (k, v) ∈ m.pairs ↔ m.get? k = some v :=
  ⟨valueIn_of_mem m.distinct, mem_of_valueIn⟩

/-- A look-up does not depend on the order of the pairs. -/
theorem get?_eq_of_perm {m m' : Keyed α β} (h : m.pairs.Perm m'.pairs) (k : α) :
    m.get? k = m'.get? k := by
  ext v
  rw [← mem_pairs_iff, ← mem_pairs_iff, h.mem_iff]

/-- The keys in their order and their values are all that there is to a map. -/
theorem eq_of_keys {m m' : Keyed α β} (hkeys : m.keys = m'.keys)
    (hget : ∀ k, m.get? k = m'.get? k) : m = m' := by
  obtain ⟨ps, hd⟩ := m
  obtain ⟨qs, hd'⟩ := m'
  simp only [keys, get?] at hkeys hget
  congr 1
  induction ps generalizing qs with
  | nil => exact (List.map_eq_nil_iff.1 hkeys.symm).symm
  | cons p ps ih =>
    cases qs with
    | nil => cases hkeys
    | cons q qs =>
      obtain ⟨k, v⟩ := p
      obtain ⟨k', v'⟩ := q
      obtain ⟨hk, hrest⟩ := List.cons.inj hkeys
      obtain rfl : k = k' := hk
      obtain ⟨hnew, hd⟩ := List.nodup_cons.1 hd
      obtain ⟨hnew', hd'⟩ := List.nodup_cons.1 hd'
      have hvalue := hget k
      simp only [valueIn, if_true, Option.some.injEq] at hvalue
      rw [hvalue, ih hd qs hd' hrest fun j => ?_]
      -- The first key is in neither rest, and the others are not the first.
      by_cases hj : k = j
      · rw [valueIn_eq_none_iff.2 (hj ▸ hnew), valueIn_eq_none_iff.2 (hj ▸ hnew')]
      · simpa [valueIn, hj] using hget j

@[simp] theorem get?_filter (m : Keyed α β) (p : α × β → Bool) (k : α) :
    (m.filter p).get? k = (m.get? k).filter fun v => p (k, v) := by
  ext v
  simp [← mem_pairs_iff, filter, Option.filter_eq_some_iff]

theorem keys_filter (m : Keyed α β) (p : α × β → Bool) :
    (m.filter p).keys = m.keys.filter fun k => (m.get? k).any fun v => p (k, v) := by
  simp only [keys, filter, List.filter_map]
  congr 1
  refine List.filter_congr fun e he => ?_
  simp [mem_pairs_iff.1 he]

end Keyed

end KeyedRecords
