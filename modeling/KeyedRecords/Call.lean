import KeyedRecords.LookupError
import KeyedRecords.Record.Value

/-!
Calls on the collaborators of a service, and outcomes together with the calls that led to them.
-/

namespace KeyedRecords

/-- Positional arguments in the order of their positions. -/
abbrev Arguments := List (Nat × Value)

inductive Call where
  | ping
  | get (scope : String) (key : Value)
  | query (statement column : String) (arguments : Arguments)
  | map (tag : String)
  | prepare (statement : String)
  | bind (slot : Nat) (value : Value)
  | fetch
  deriving DecidableEq

/-- An outcome and the calls made on the way, in order. A call is noted before it fails. -/
structure Traced (α : Type) where
  calls : List Call
  outcome : Except LookupError α

namespace Traced

variable {α β : Type}

def pure (a : α) : Traced α := ⟨[], .ok a⟩

def bind (x : Traced α) (f : α → Traced β) : Traced β :=
  match x.outcome with
  | .ok a => ⟨x.calls ++ (f a).calls, (f a).outcome⟩
  | .error e => ⟨x.calls, .error e⟩

instance : Monad Traced where
  pure := pure
  bind := bind

/-- One call and its outcome. -/
def call (c : Call) (outcome : Except LookupError α) : Traced α := ⟨[c], outcome⟩

def mapError (f : LookupError → LookupError) (x : Traced α) : Traced α :=
  ⟨x.calls, x.outcome.mapError f⟩

@[simp] theorem outcome_bind (x : Traced α) (f : α → Traced β) :
    (x >>= f).outcome = x.outcome >>= fun a => (f a).outcome := by
  change (x.bind f).outcome = _
  unfold bind
  cases x.outcome <;> rfl

theorem bind_of_ok {x : Traced α} {f : α → Traced β} {a : α} (h : x.outcome = .ok a) :
    x.bind f = ⟨x.calls ++ (f a).calls, (f a).outcome⟩ := by
  simp [bind, h]

theorem bind_of_error {x : Traced α} {f : α → Traced β} {e : LookupError}
    (h : x.outcome = .error e) : x.bind f = ⟨x.calls, .error e⟩ := by
  simp [bind, h]

end Traced

end KeyedRecords
