import KeyedRecords.Service.Lifecycle

/-!
A lifecycle that many tasks share. Readers hold it together, and whoever enables or disables the
service holds it alone; who cannot have it yet waits.
-/

namespace KeyedRecords

/-- Who holds a lifecycle. -/
inductive Hold where
  | readers (count : Nat)
  | exclusive
  deriving DecidableEq

structure Guarded (R : Type) where
  lifecycle : Lifecycle R
  hold : Hold
  deriving DecidableEq

namespace Guarded

variable {R : Type}

def new : Guarded R := ⟨.new, .readers 0⟩

def phase (g : Guarded R) : Phase := g.lifecycle.phase

/-- Asks for the resources; `none` says that the reader has to wait. One who gets them holds the
lifecycle until it lets go. -/
def read? (g : Guarded R) : Option (Except LookupError R × Guarded R) :=
  match g.hold with
  | .exclusive => none
  | .readers n =>
    match g.lifecycle.read with
    | .ok r => some (.ok r, { g with hold := .readers (n + 1) })
    | .error e => some (.error e, g)

/-- One reader lets go. -/
def release (g : Guarded R) : Guarded R :=
  match g.hold with
  | .readers n => { g with hold := .readers (n - 1) }
  | .exclusive => g

/-- Begins to enable the service, with the resources it had; `none` says that the caller has to
wait. -/
def beginEnable? (g : Guarded R) : Option (Option R × Guarded R) :=
  match g.hold with
  | .readers 0 =>
    let (previous, inside) := g.lifecycle.beginEnable
    some (previous, ⟨inside, .exclusive⟩)
  | _ => none

def endEnable (g : Guarded R) (built : Except LookupError R) : Guarded R :=
  ⟨g.lifecycle.endEnable built, .readers 0⟩

/-- Begins to disable the service; `none` says that the caller has to wait. Where there is nothing
to release, the call is over at once. -/
def beginDisable? (g : Guarded R) : Option (Option R × Guarded R) :=
  match g.hold with
  | .readers 0 =>
    match g.lifecycle.beginDisable with
    | some (r, inside) => some (some r, ⟨inside, .exclusive⟩)
    | none => some (none, g)
  | _ => none

def endDisable (g : Guarded R) : Guarded R := ⟨g.lifecycle.endDisable, .readers 0⟩

/-- A call that was begun is given up. It lets go and does nothing more. -/
def abandon (g : Guarded R) : Guarded R := { g with hold := .readers 0 }

end Guarded

end KeyedRecords
