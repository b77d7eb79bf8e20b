import KeyedRecords.Call
import KeyedRecords.Query.Coordinates

/-!
Positional arguments of statements. The coordinate `arg` followed by a number carries the argument
of that position. Arguments are bound in ascending order of position, and gaps close up.
-/

namespace KeyedRecords

namespace Arguments

def namePart : String := "arg"

/-- The position that an argument's name gives, if the name is an argument's. -/
def position? (name : String) : Option Nat :=
  match name.toList with
  | 'a' :: 'r' :: 'g' :: digits => Text.numeral? digits
  | _ => none

/-- The name of the argument of a position. -/
def nameOf (position : Nat) : String := namePart ++ Text.decimal position

/-- The arguments among some coordinates, in their order; fails on a position past 64 bits. -/
def collect : List (String × Value) → Except LookupError Arguments
  | [] => .ok []
  | (name, value) :: rest =>
    match position? name with
    | none => collect rest
    | some position =>
      if position ≤ Text.maxWord then
        (collect rest).map ((position, value) :: ·)
      else
        .error (.argument Text.maxWord (.outOfRange name))

def sort (args : Arguments) : Arguments := args.mergeSort fun a b => a.1 ≤ b.1

/-- The first position that is given twice. -/
def repeated? : Arguments → Option Nat
  | a :: b :: rest => if a.1 = b.1 then some a.1 else repeated? (b :: rest)
  | _ => none

/-- The arguments in ascending order of position, no position twice. -/
def extract (coordinates : Coordinates) : Except LookupError Arguments :=
  match collect coordinates.pairs with
  | .error e => .error e
  | .ok args =>
    match repeated? (sort args) with
    | some position => .error (.argument position .repeated)
    | none => .ok (sort args)

end Arguments

/-- A statement after values were bound to its slots, the slots that were tried and how it ended. -/
structure Bound (σ : Type) where
  statement : σ
  tried : List (Nat × Value)
  outcome : Except LookupError Unit

namespace Bound

variable {σ : Type}

/-- Binds values to the slots from `slot` on, and stops at the first that is refused. -/
def values (bind : σ → Nat → Value → Except LookupError σ) :
    Nat → σ → List Value → Bound σ
  | _, st, [] => ⟨st, [], .ok ()⟩
  | slot, st, v :: rest =>
    match bind st slot v with
    | .error e => ⟨st, [(slot, v)], .error e⟩
    | .ok next =>
      let bound := values bind (slot + 1) next rest
      { bound with tried := (slot, v) :: bound.tried }

/-- Binds the arguments in their order to the slots 1, 2, 3 and so on. -/
def arguments (bind : σ → Nat → Value → Except LookupError σ) (st : σ) (args : Arguments) :
    Bound σ :=
  values bind 1 st (args.map (·.2))

def traced (b : Bound σ) : Traced σ :=
  ⟨b.tried.map fun (slot, v) => .bind slot v, b.outcome.map fun _ => b.statement⟩

end Bound

end KeyedRecords
