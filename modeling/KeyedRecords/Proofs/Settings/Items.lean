import KeyedRecords.Proofs.Occurrences
import KeyedRecords.Proofs.Text.Blank
import KeyedRecords.Settings.Items

/-!
What a text is as a list. Its items are the parts between the commas that show, without the white
space around them, each where it first occurs; written with commas they are read as they were, and
the list of two texts with a comma between them is the list of the first and what the second adds to
it (`Items.parse_normalises`).
-/

namespace KeyedRecords

namespace Items

variable {s t item : String} {items ps : List String} {cs : List Char}

/-! ## Parts -/

/-- The parts of the text between its commas. -/
structure Separated (s : String) (parts : List String) : Prop where
  ne_nil : parts ≠ []
  comma_not_mem : ∀ part ∈ parts, ',' ∉ part.toList
  joined : ",".intercalate parts = s

def parts (s : String) : List String := (s.toList.splitOn ',').map String.ofList

theorem split_eq_splitOn (cs : List Char) : split cs = cs.splitOn ',' := by
  induction cs with
  | nil => rfl
  | cons c rest ih =>
    rw [split, List.splitOn_cons_eq_if_modifyHead, ih]
    cases hrest : rest.splitOn ',' with
    | nil => exact (List.splitOn_ne_nil ',' rest hrest).elim
    | cons part parts => simp only [beq_iff_eq, List.modifyHead_cons]

theorem comma_not_mem_of_mem_splitOn : ∀ part ∈ cs.splitOn ',', ',' ∉ part := by
  induction cs with
  | nil => simp
  | cons c rest ih =>
    obtain ⟨part, parts, hrest⟩ := List.exists_cons_of_ne_nil (List.splitOn_ne_nil ',' rest)
    rw [hrest] at ih
    obtain ⟨hpart, hparts⟩ := List.forall_mem_cons.1 ih
    rw [List.splitOn_cons_eq_if_modifyHead, hrest]
    split
    · exact List.forall_mem_cons.2 ⟨List.not_mem_nil, ih⟩
    · next hc =>
      have hcomma : ',' ≠ c := fun heq => hc (beq_iff_eq.2 heq.symm)
      exact List.forall_mem_cons.2 ⟨List.not_mem_cons_of_ne_of_not_mem hcomma hpart, hparts⟩

theorem separated_parts (s : String) : Separated s (parts s) where
  ne_nil := by simp [parts]
  comma_not_mem := by
    intro part hpart
    obtain ⟨cs, hcs, rfl⟩ := List.mem_map.1 hpart
    rw [String.toList_ofList]
    exact comma_not_mem_of_mem_splitOn cs hcs
  joined := by
    rw [← String.toList_inj, String.toList_intercalate, parts, List.map_map]
    have hid : (String.toList ∘ String.ofList) = id := funext fun cs => String.toList_ofList
    rw [hid, List.map_id]
    exact List.intercalate_splitOn ','

theorem Separated.eq_parts (h : Separated s ps) : ps = parts s := by
  obtain ⟨hne, hcomma, rfl⟩ := h
  have hcomma' : ∀ cs ∈ ps.map String.toList, ',' ∉ cs := by
    intro cs hcs
    obtain ⟨part, hpart, rfl⟩ := List.mem_map.1 hcs
    exact hcomma part hpart
  have hsplit : (",".toList.intercalate (ps.map String.toList)).splitOn ',' =
      ps.map String.toList :=
    List.splitOn_intercalate ',' hcomma' (by simpa using hne)
  rw [parts, String.toList_intercalate, hsplit, List.map_map]
  have hid : (String.ofList ∘ String.toList) = id := funext fun part => String.ofList_toList
  rw [hid, List.map_id]

theorem parts_append (s t : String) : parts (s ++ "," ++ t) = parts s ++ parts t := by
  have hlist : (s ++ "," ++ t).toList = s.toList ++ ',' :: t.toList := by
    simp [String.toList_append]
  rw [parts, hlist, List.splitOn_append_cons_self, List.map_append]
  rfl

/-! ## Items -/

/-- What can be an item of a list: it shows, without white space around it and without a comma. -/
structure IsItem (item : String) : Prop where
  shows : ¬Text.allBlank item
  bare : Text.Bare item
  comma_not_mem : ',' ∉ item.toList

/-- The items in their order, repeated ones as often as they occur. -/
def entries (s : String) : List String :=
  ((parts s).filter fun part => !Text.allBlank part).map Text.trim

theorem parse_eq (s : String) : parse s = (entries s).eraseDups := by
  have hinjective : Function.Injective String.ofList := fun _ _ => String.ofList_inj.1
  rw [parse, ← eraseDups_map hinjective, split_eq_splitOn, entries, parts, List.filter_map,
    List.filter_map, List.map_map, List.map_map]
  congr 1
  have hshows : ∀ cs : List Char,
      (!(Text.trimChars cs).isEmpty) = !Text.allBlank (String.ofList cs) := by
    intro cs
    rw [Text.allBlank, String.toList_ofList, Bool.eq_iff_iff, Bool.not_eq_true', Bool.not_eq_true',
      ← Bool.not_eq_true, ← Bool.not_eq_true, List.isEmpty_iff, Text.trimChars_eq_nil_iff,
      List.all_eq_true]
  have htrim : ∀ cs : List Char,
      String.ofList (Text.trimChars cs) = Text.trim (String.ofList cs) := by
    intro cs
    rw [Text.trim, String.toList_ofList]
  simp only [Function.comp_def, hshows, htrim]

theorem entries_append (s t : String) : entries (s ++ "," ++ t) = entries s ++ entries t := by
  rw [entries, parts_append, List.filter_append, List.map_append]
  rfl

theorem isItem_of_mem_entries (h : item ∈ entries s) : IsItem item := by
  obtain ⟨part, hpart, rfl⟩ := List.mem_map.1 h
  obtain ⟨hmem, hblank⟩ := List.mem_filter.1 hpart
  obtain ⟨before, after, pieces, -, -⟩ := Text.pads_trim part
  refine ⟨?_, Text.bare_trim part, fun hcomma => ?_⟩
  · rw [← Text.trim_eq_empty_iff, (Text.bare_trim part).trim_eq, Text.trim_eq_empty_iff]
    simpa using hblank
  · apply (separated_parts s).comma_not_mem part hmem
    rw [pieces]
    exact List.mem_append_right _ (List.mem_append_left _ hcomma)

theorem isItem_of_mem_parse (h : item ∈ parse s) : IsItem item := by
  rw [parse_eq, List.mem_eraseDups] at h
  exact isItem_of_mem_entries h

theorem nodup_parse (s : String) : (parse s).Nodup := by
  rw [parse_eq]
  exact nodup_eraseDups _

theorem entries_intercalate (h : ∀ item ∈ items, IsItem item) :
    entries (",".intercalate items) = items := by
  cases items with
  | nil => rfl
  | cons item rest =>
    have hseparated : Separated (",".intercalate (item :: rest)) (item :: rest) :=
      ⟨List.cons_ne_nil _ _, fun part hpart => (h part hpart).comma_not_mem, rfl⟩
    have hshow : (item :: rest).filter (fun part => !Text.allBlank part) = item :: rest :=
      List.filter_eq_self.2 fun part hpart => by simpa using (h part hpart).shows
    rw [entries, ← hseparated.eq_parts, hshow]
    calc (item :: rest).map Text.trim
        = (item :: rest).map id := List.map_congr_left fun part hpart => (h part hpart).bare.trim_eq
      _ = item :: rest := List.map_id _

/-- Items without repeats are read as they were, however few they are. -/
theorem parse_intercalate (h : ∀ item ∈ items, IsItem item) (hd : items.Nodup) :
    parse (",".intercalate items) = items := by
  rw [parse_eq, entries_intercalate h, eraseDups_of_nodup hd]

theorem parse_append (s t : String) :
    parse (s ++ "," ++ t) = parse s ++ (parse t).filter (· ∉ parse s) := by
  have hnew : (entries t).removeAll (entries s) = (entries t).filter (· ∉ parse s) := by
    refine List.filter_congr fun item _ => ?_
    rw [parse_eq]
    simp
  rw [parse_eq, entries_append, List.eraseDups_append, hnew, eraseDups_filter, ← parse_eq,
    ← parse_eq]

/-- A list has the parts of its text that show, trimmed, each once and in the order in which they
first occur. So it is a list of items without repeats, and written again it is read as the same. The
list of a longer text begins with that of its beginning, and what is new there follows. -/
theorem parse_normalises (s t : String) :
    (∃ parts, (∀ parts', Separated s parts' ↔ parts' = parts) ∧
      InFirstOrder ((parts.filter fun part => !Text.allBlank part).map Text.trim) (parse s)) ∧
    (∀ item ∈ parse s, IsItem item) ∧ (parse s).Nodup ∧
    parse (",".intercalate (parse s)) = parse s ∧
    parse (s ++ "," ++ t) = parse s ++ (parse t).filter (· ∉ parse s) := by
  have hitems : ∀ item ∈ parse s, IsItem item := fun item hitem => isItem_of_mem_parse hitem
  refine ⟨⟨parts s, fun parts' => ?_, ?_⟩, hitems, nodup_parse s,
    parse_intercalate hitems (nodup_parse s), parse_append s t⟩
  · constructor
    · exact Separated.eq_parts
    · rintro rfl
      exact separated_parts s
  · rw [parse_eq]
    exact inFirstOrder_eraseDups (entries s)

/-- A list with an item that comes twice, and a part that is blank but not empty. -/
def repeating : String := " name ,größe ,,\u00a0, name"

theorem parse_normalises_repeating : "größe" ∈ parse repeating ∧ IsItem "größe" ∧
    parse (repeating ++ "," ++ "id, name") = ["name", "größe", "id"] := by
  have hfirst : parse repeating = ["name", "größe"] := by decide
  have hsecond : parse "id, name" = ["id", "name"] := by decide
  obtain ⟨-, hitems, -, -, happend⟩ := parse_normalises repeating "id, name"
  have hmem : "größe" ∈ parse repeating := by simp [hfirst]
  refine ⟨hmem, hitems _ hmem, ?_⟩
  rw [happend, hfirst, hsecond]
  rfl

end Items

end KeyedRecords
