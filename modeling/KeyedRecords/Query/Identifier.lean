import KeyedRecords.LookupError
import KeyedRecords.Text.Letter

/-!
Identifiers: the names of tables, columns and the like that may stand in a statement.
-/

namespace KeyedRecords.Identifier

def canStart (c : Char) : Bool := Text.isLetter c || c == '_'

/-- A point separates the parts of a qualified name. -/
def canFollow (c : Char) : Bool :=
  Text.isLetterOrNumber c || c == '_' || c == '$' || c == '.'

def isValidChars : List Char → Bool
  | [] => false
  | c :: rest => canStart c && rest.all canFollow

def isValid (name : String) : Bool := isValidChars name.toList

/-- Fails on a name that is no identifier; `role` says what the name is for. -/
def check (role name : String) : Except LookupError Unit :=
  if isValid name then .ok () else .error (.setting (.invalidIdentifier role name))

theorem check_eq_ok_iff {role name : String} : check role name = .ok () ↔ isValid name := by
  unfold check
  split <;> simp_all

end KeyedRecords.Identifier
