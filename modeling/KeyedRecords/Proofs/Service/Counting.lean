import KeyedRecords.Proofs.Cache.Counters
import KeyedRecords.Proofs.Record.Inference
import KeyedRecords.Proofs.Service.RowRequests

/-!
What the steps of a table lookup that come after the cache was asked add to the counters: fetching
prepares the statement once, whatever fails, and storing a record counts neither a hit nor a miss.
-/

namespace KeyedRecords

/-! ## Prepared statements -/

def Call.isPrepare : Call → Bool
  | .prepare _ => true
  | _ => false

namespace Traced

variable {α β : Type}

def prepares (x : Traced α) : Nat := x.calls.countP Call.isPrepare

theorem prepares_bind {x : Traced α} {f : α → Traced β} (h : ∀ a, (f a).prepares = 0) :
    (x >>= f).prepares = x.prepares := by
  change (x.bind f).prepares = x.prepares
  cases hx : x.outcome with
  | error e =>
    rw [bind_of_error hx]
    rfl
  | ok a =>
    have ha : (f a).calls.countP Call.isPrepare = 0 := h a
    rw [bind_of_ok hx, prepares, List.countP_append, ha]
    rfl

end Traced

theorem Inference.prepares_fields (vocabulary : Vocabulary) (v : TaggedView) (names : List String) :
    (fields vocabulary v names).prepares = 0 := by
  induction names with
  | nil => rfl
  | cons name rest ih =>
    have hrest (type : FieldType) : (do
        let others ← fields vocabulary v rest
        pure ((name, type) :: others) : Traced _).prepares = 0 := by
      rw [Traced.prepares_bind fun _ => rfl, ih]
    rw [fields, Traced.prepares_bind hrest]
    rfl

theorem prepares_inferRecord (vocabulary : Vocabulary) (allowed : Option (List String))
    (v : TaggedView) : (inferRecord vocabulary allowed v).prepares = 0 := by
  rw [inferRecord, Traced.prepares_bind fun _ => rfl, inferSchema,
    Traced.prepares_bind fun _ => rfl, Inference.prepares_fields]

theorem Bound.prepares_traced {σ : Type} (b : Bound σ) : b.traced.prepares = 0 := by
  refine List.countP_eq_zero.2 ?_
  intro c hc
  obtain ⟨⟨slot, v⟩, -, rfl⟩ := List.mem_map.1 hc
  exact Bool.noConfusion

namespace RowLookup

variable {σ : Type} {db : Database σ} {statement : String} {key : Value} {args : Arguments}
  {record : Record}

/-- Whatever fails, the statement has been prepared once. -/
theorem prepares_fetch (db : Database σ) (statement : String) (key : Value) (args : Arguments) :
    (fetch db statement key args).prepares = 1 := by
  change (select db statement args).prepares = 1
  rw [select, Traced.prepares_bind]
  · rfl
  · intro prepared
    rw [Traced.prepares_bind, Bound.prepares_traced]
    intro bound
    rw [Traced.prepares_bind]
    · rfl
    · intro row
      cases row with
      | none => rfl
      | some o => exact (Traced.prepares_bind fun _ => rfl).trans (prepares_inferRecord ..)

theorem fetch_eq_some_iff :
    (fetch db statement key args).outcome = .ok (some record) ↔
      ∃ row, db.respond statement (args.map (·.2)) = .ok (some row) ∧
        (inferRecord db.vocabulary none row.view).outcome = .ok record := by
  rw [fetch, Traced.outcome_mapError_eq_ok_iff, outcome_select]
  rcases hr : db.respond statement (args.map (·.2)) with e | _ | row
  · simp [hr, Except.bind]
  · simp [hr, Except.bind, recordOf]
  · cases h : (inferRecord db.vocabulary none row.view).outcome <;>
      simp [hr, Except.bind, Except.map, recordOf, h]

end RowLookup

/-! ## Lookups that ask the cache -/

theorem RowLookup.sameLookups_keep {cache : RecordCache} {now : Moment} {k : CacheKey}
    {fetched : Except LookupError (Option Record)} :
    (keep cache now k fetched).2.SameLookups cache := by
  unfold keep
  split
  · exact RecordCache.sameLookups_put
  · exact ⟨rfl, rfl⟩

/-- A lookup that asks the cache: it has a key that is not blank, and its arguments are in order. -/
def RowSettings.asks (settings : RowSettings) (coordinates : Coordinates) : Bool :=
  (keyValue? coordinates settings.keyName).isSome && (Arguments.extract coordinates).isOk

theorem RowSettings.asks_iff {settings : RowSettings} {coordinates : Coordinates} :
    settings.asks coordinates ↔ (∃ key, keyValue? coordinates settings.keyName = some key) ∧
      ∃ args, Arguments.extract coordinates = .ok args := by
  cases h : Arguments.extract coordinates <;>
    simp [asks, h, Except.isOk, Except.toBool, Option.isSome_iff_exists]

end KeyedRecords
