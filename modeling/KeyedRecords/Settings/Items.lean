import KeyedRecords.Text.Blank

/-!
Lists written as one text, their items between commas.
-/

namespace KeyedRecords.Items

/-- The texts between the commas; at least one, possibly empty. -/
def split : List Char → List (List Char)
  | [] => [[]]
  | c :: rest =>
    if c = ',' then [] :: split rest
    else match split rest with
      | part :: parts => (c :: part) :: parts
      | [] => [[c]]

/-- The items without white space around them, blank ones left out, each once and in the order of
first occurrence. -/
def parse (s : String) : List String :=
  (((split s.toList).map Text.trimChars).filter fun item => !item.isEmpty).eraseDups.map
    String.ofList

theorem split_ne_nil (cs : List Char) : split cs ≠ [] := by
  cases cs with
  | nil => simp [split]
  | cons c rest =>
    simp only [split]
    split
    · simp
    · split <;> simp

end KeyedRecords.Items
