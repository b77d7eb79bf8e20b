/-!
The phases of a service.
-/

namespace KeyedRecords

inductive Phase where
  | disabled
  | enabling
  | enabled
  | disabling
  deriving DecidableEq

namespace Phase

def name : Phase → String
  | disabled => "Disabled"
  | enabling => "Enabling"
  | enabled => "Enabled"
  | disabling => "Disabling"

def ofName? (s : String) : Option Phase :=
  [disabled, enabling, enabled, disabling].find? (·.name == s)

theorem ofName?_name (p : Phase) : ofName? p.name = some p := by cases p <;> decide

def isEnabled : Phase → Bool
  | enabled => true
  | _ => false

end Phase

end KeyedRecords
