import KeyedRecords.Inference
import KeyedRecords.Query.Arguments
import KeyedRecords.Query.Statement

/-!
What services ask of the stores behind them.
-/

namespace KeyedRecords

/-- A store of objects under keys. Each request may change the store's state. -/
structure ObjectStore (σ : Type) where
  /-- A cheap round trip. -/
  ping : σ → Except LookupError Unit × σ
  vocabulary : Vocabulary
  /-- The language of the key queries that the store takes. -/
  dialect : Dialect
  /-- The object under a key within a scope. -/
  get : σ → String → Value → Except LookupError (Option TaggedObject) × σ
  /-- The values of one column in all rows that a statement finds. -/
  queryKeys : σ → String → String → Arguments → Except LookupError (List Value) × σ

/-- A relational database at one moment. Statements of type `σ` are prepared, then given their
arguments slot by slot, then run. -/
structure Database (σ : Type) where
  ping : Except LookupError Unit
  vocabulary : Vocabulary
  prepare : String → Except LookupError σ
  bind : σ → Nat → Value → Except LookupError σ
  fetchFirst : σ → Except LookupError (Option TaggedObject)

/-- Reports that a backend did not answer. -/
def reached (backend : Backend) (ping : Except LookupError Unit) : Except LookupError Unit :=
  ping.mapError (.unreachable backend)

@[simp] theorem reached_ok (backend : Backend) : reached backend (.ok ()) = .ok () := rfl

@[simp] theorem reached_error (backend : Backend) (e : LookupError) :
    reached backend (.error e) = .error (.unreachable backend e) := rfl

/-- The outcome of a request to a service, the calls it took, and the service and its store
afterwards. -/
structure Served (S σ α : Type) where
  calls : List Call
  outcome : Except LookupError α
  service : S
  store : σ

end KeyedRecords
