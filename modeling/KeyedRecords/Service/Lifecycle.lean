import KeyedRecords.LookupError

/-!
The life of a service: its phase, and the resources that it holds while it is enabled. Enabling and
disabling have a beginning and an end, between which the resources are being built or released. The
end may never come; the phase then stays what it was in between, and the resources are gone.
-/

namespace KeyedRecords

structure Lifecycle (R : Type) where
  resources : Option R
  phase : Phase
  deriving DecidableEq

namespace Lifecycle

variable {R : Type}

def new : Lifecycle R := ⟨none, .disabled⟩

/-- The resources of an enabled service. -/
def read (l : Lifecycle R) : Except LookupError R :=
  match l.resources with
  | some r => .ok r
  | none => .error (.notReady l.phase)

theorem read_eq_ok_iff {l : Lifecycle R} {r : R} : l.read = .ok r ↔ l.resources = some r := by
  unfold read
  split <;> simp [*]

/-- Takes the resources away; what is built instead may make use of them. -/
def beginEnable (l : Lifecycle R) : Option R × Lifecycle R := (l.resources, ⟨none, .enabling⟩)

/-- Enabled with what was built, or disabled if building failed. -/
def endEnable (l : Lifecycle R) (built : Except LookupError R) : Lifecycle R :=
  match built with
  | .ok r => ⟨some r, .enabled⟩
  | .error _ => ⟨l.resources, .disabled⟩

/-- Takes the resources away to release them. Without any there is nothing to do. -/
def beginDisable (l : Lifecycle R) : Option (R × Lifecycle R) :=
  l.resources.map fun r => (r, ⟨none, .disabling⟩)

def endDisable (l : Lifecycle R) : Lifecycle R := { l with phase := .disabled }

/-- Builds new resources, given the old ones if there are any. -/
def enable (l : Lifecycle R) (build : Option R → Except LookupError R) :
    Except LookupError Unit × Lifecycle R :=
  let (previous, inside) := l.beginEnable
  let built := build previous
  (built.map fun _ => (), inside.endEnable built)

def disable (l : Lifecycle R) : Lifecycle R :=
  match l.beginDisable with
  | some (_, inside) => inside.endDisable
  | none => l

@[simp] theorem resources_disable (l : Lifecycle R) : l.disable.resources = none := by
  cases h : l.resources <;> simp [disable, beginDisable, endDisable, h]

theorem phase_disable (l : Lifecycle R) :
    l.disable.phase = if l.resources.isSome then .disabled else l.phase := by
  cases h : l.resources <;> simp [disable, beginDisable, endDisable, h]

/-- An enabled service with other resources. -/
def update (l : Lifecycle R) (r : R) : Lifecycle R :=
  { l with resources := l.resources.map fun _ => r }

end Lifecycle

end KeyedRecords
