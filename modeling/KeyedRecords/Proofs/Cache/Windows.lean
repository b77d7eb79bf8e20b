import KeyedRecords.Cache.SchemaSlot

/-!
A schema slot under any calls. They fall into windows: a call to forget begins one, and so does a
call that carries another token than the last call that carried one. Within a window every call gets
the schema of the first object whose schema could be inferred, and nothing is inferred after that
(`lawful_windows`).
-/

namespace KeyedRecords

/-- What a schema is asked for with. -/
structure SchemaRequest where
  allowed : Option (List String)
  token : Option String
  view : TaggedView

namespace SchemaRequest

/-- What inference gives for the object itself. -/
def infer (vocabulary : Vocabulary) (r : SchemaRequest) : Traced Schema :=
  inferSchema vocabulary r.allowed r.view

/-- The schema of the object itself, if it can be inferred. -/
def schema? (vocabulary : Vocabulary) (r : SchemaRequest) : Option Schema :=
  (r.infer vocabulary).outcome.toOption

end SchemaRequest

inductive SlotCall where
  | resolve (r : SchemaRequest)
  | invalidate

/-- A request and what came of it. -/
structure Resolved where
  request : SchemaRequest
  /-- Whether inference ran for it. -/
  inferred : Bool
  answer : Traced Schema

inductive SlotEvent where
  | resolved (a : Resolved)
  | invalidated

namespace SlotEvent

def call : SlotEvent → SlotCall
  | resolved a => .resolve a.request
  | invalidated => .invalidate

def resolution? : SlotEvent → Option Resolved
  | resolved a => some a
  | invalidated => none

def token? (e : SlotEvent) : Option String := e.resolution?.bind (·.request.token)

end SlotEvent

namespace SchemaSlot

/-- Whether a request that carries the token makes inference run: it finds no schema. -/
def infers (s : SchemaSlot) (token : Option String) : Bool := (s.onToken token).schema.isNone

/-- What comes of calls. -/
def history (vocabulary : Vocabulary) (s : SchemaSlot) : List SlotCall → List SlotEvent
  | [] => []
  | .invalidate :: rest => .invalidated :: s.invalidate.history vocabulary rest
  | .resolve r :: rest =>
    let (answer, next) := s.resolve vocabulary r.allowed r.token r.view
    .resolved ⟨r, s.infers r.token, answer⟩ :: next.history vocabulary rest

end SchemaSlot

/-! ## Windows -/

/-- The last token carried since the last call to forget, the latest event coming first. -/
def lastToken? (past : List SlotEvent) : Option String :=
  (past.takeWhile (·.resolution?.isSome)).findSome? SlotEvent.token?

/-- A request begins a window if it carries a token that is not the last one. -/
def SchemaRequest.begins (r : SchemaRequest) (past : List SlotEvent) : Bool :=
  r.token.isSome && r.token != lastToken? past

/-- The windows that events fall into that come after those of the past, if the last window so far
has the resolutions `window`. -/
def windowsFrom (past : List SlotEvent) (window : List Resolved) :
    List SlotEvent → List (List Resolved)
  | [] => [window]
  | .invalidated :: rest => window :: windowsFrom (.invalidated :: past) [] rest
  | .resolved a :: rest =>
    if a.request.begins past then window :: windowsFrom (.resolved a :: past) [a] rest
    else windowsFrom (.resolved a :: past) (window ++ [a]) rest

def windows (events : List SlotEvent) : List (List Resolved) := windowsFrom [] [] events

/-- What is due to a request that comes after those of `before` in its window: the schema of the
first of them whose object has one, else that of its own object, or the failure to infer it.
Inference runs for it only if it came to nothing for those before. -/
structure Resolved.Due (vocabulary : Vocabulary) (before : List Resolved) (a : Resolved) :
    Prop where
  outcome_eq : a.answer.outcome =
    match (before ++ [a]).findSome? (·.request.schema? vocabulary) with
    | some schema => .ok schema
    | none => (a.request.infer vocabulary).outcome
  inferred_iff : a.inferred ↔ ∀ b ∈ before, b.request.schema? vocabulary = none
  answer_eq : a.inferred → a.answer = a.request.infer vocabulary
  calls_eq : ¬a.inferred → a.answer.calls = []

/-- Every request of the window got its due, and inference succeeded once at most. -/
structure LawfulWindow (vocabulary : Vocabulary) (window : List Resolved) : Prop where
  due : ∀ before a after, window = before ++ a :: after → a.Due vocabulary before
  once : window.countP (fun a => a.inferred && (a.request.schema? vocabulary).isSome) ≤ 1

section Windows

variable {vocabulary : Vocabulary} {past events : List SlotEvent}
  {window before : List Resolved} {a : Resolved} {r : SchemaRequest} {s : SchemaSlot}
  {token : Option String}

theorem Resolved.due_of_held {schema : Schema}
    (h : before.findSome? (·.request.schema? vocabulary) = some schema) :
    Due vocabulary before ⟨r, false, pure schema⟩ where
  outcome_eq := by
    rw [List.findSome?_append, h]
    rfl
  inferred_iff := by
    rw [← List.findSome?_eq_none_iff, h]
    simp
  answer_eq := nofun
  calls_eq _ := rfl

theorem Resolved.due_of_empty
    (h : before.findSome? (·.request.schema? vocabulary) = none) :
    Due vocabulary before ⟨r, true, r.infer vocabulary⟩ where
  outcome_eq := by
    rw [List.findSome?_append, h, Option.none_or, List.findSome?_singleton]
    cases hi : (r.infer vocabulary).outcome <;> simp [SchemaRequest.schema?, hi, Except.toOption]
  inferred_iff := by simpa using h
  answer_eq _ := rfl
  calls_eq h := (h rfl).elim

theorem LawfulWindow.nil : LawfulWindow vocabulary [] := by
  refine ⟨?_, Nat.zero_le 1⟩
  intro before a after h
  cases before <;> cases h

theorem LawfulWindow.snoc (h : LawfulWindow vocabulary window) (ha : a.Due vocabulary window) :
    LawfulWindow vocabulary (window ++ [a]) := by
  constructor
  · intro before b after heq
    -- Either the new one is meant, or one before, with the new one among those after it.
    rcases after.eq_nil_or_concat with rfl | ⟨after, c, rfl⟩
    · obtain ⟨rfl, hb⟩ := List.append_inj' heq rfl
      cases hb
      exact ha
    · rw [List.concat_eq_append, ← List.cons_append, ← List.append_assoc] at heq
      exact h.due before b after (List.append_inj' heq rfl).1
  · rw [List.countP_append, List.countP_singleton]
    split
    · next hcounts =>
      have hnone : ∀ b ∈ window, b.request.schema? vocabulary = none :=
        ha.inferred_iff.1 (Bool.and_eq_true_iff.1 hcounts).1
      have hzero : window.countP (fun a =>
          a.inferred && (a.request.schema? vocabulary).isSome) = 0 :=
        List.countP_eq_zero.2 fun b hb => by simp [hnone b hb]
      exact hzero.symm ▸ Nat.le_refl 1
    · exact h.once

/-- Windows only divide what was resolved. -/
theorem flatten_windowsFrom :
    (windowsFrom past window events).flatten = window ++ events.filterMap (·.resolution?) := by
  induction events generalizing past window with
  | nil => simp [windowsFrom]
  | cons e rest ih =>
    cases e with
    | invalidated => simp [windowsFrom, ih, SlotEvent.resolution?]
    | resolved a =>
      rw [windowsFrom]
      split <;> simp [ih, SlotEvent.resolution?]

theorem lastToken?_resolved :
    lastToken? (.resolved a :: past) = a.request.token.or (lastToken? past) := by
  simp only [lastToken?, SlotEvent.resolution?, Option.isSome_some, List.takeWhile_cons_of_pos,
    List.findSome?_cons, SlotEvent.token?, Option.bind_some]
  cases a.request.token <;> rfl

namespace SchemaSlot

theorem map_call_history (calls : List SlotCall) :
    (s.history vocabulary calls).map SlotEvent.call = calls := by
  induction calls generalizing s with
  | nil => rfl
  | cons c rest ih => cases c <;> simp [history, SlotEvent.call, ih]

theorem token_onToken : (s.onToken token).token = token.or s.token := by
  cases token with
  | none => rfl
  | some t =>
    rw [onToken]
    split
    · next h => exact h
    · rfl

/-- The slot after past events, with `window` the last window so far. -/
structure After (vocabulary : Vocabulary) (past : List SlotEvent) (window : List Resolved)
    (s : SchemaSlot) : Prop where
  token_eq : s.token = lastToken? past
  schema_eq : s.schema = window.findSome? (·.request.schema? vocabulary)

namespace After

theorem onToken (h : s.After vocabulary past window) (r : SchemaRequest) :
    (s.onToken r.token).schema =
      (if r.begins past then [] else window).findSome? (·.request.schema? vocabulary) := by
  rw [SchemaRequest.begins, ← h.token_eq]
  cases r.token with
  | none => exact h.schema_eq
  | some t =>
    rw [SchemaSlot.onToken]
    by_cases ht : s.token = some t
    · simp [ht, h.schema_eq]
    · have hother : (some t != s.token) = true := bne_iff_ne.2 (Ne.symm ht)
      simp [ht, hother]

/-- A request gets its due, and the slot keeps the first schema of the window. -/
theorem resolve (h : s.After vocabulary past window) (r : SchemaRequest) :
    let before := if r.begins past then [] else window
    let resolved := s.resolve vocabulary r.allowed r.token r.view
    let a : Resolved := ⟨r, s.infers r.token, resolved.1⟩
    a.Due vocabulary before ∧
      resolved.2.After vocabulary (.resolved a :: past) (before ++ [a]) := by
  intro before resolved a
  have hon : (s.onToken r.token).schema = before.findSome? (·.request.schema? vocabulary) :=
    h.onToken r
  have htoken : (s.onToken r.token).token = lastToken? (.resolved a :: past) := by
    rw [token_onToken, h.token_eq, lastToken?_resolved]
  cases hb : before.findSome? (·.request.schema? vocabulary) with
  | some schema =>
    rw [hb] at hon
    have hresolved : resolved = (pure schema, s.onToken r.token) := resolve_of_held hon
    have ha : a = ⟨r, false, pure schema⟩ := by simp only [a, infers, hon, hresolved]; rfl
    refine ⟨ha ▸ Resolved.due_of_held hb, ?_, ?_⟩
    · rw [hresolved, htoken]
    · rw [hresolved, hon, List.findSome?_append, hb]
      rfl
  | none =>
    rw [hb] at hon
    have hresolved : resolved =
        (r.infer vocabulary, ⟨r.schema? vocabulary, (s.onToken r.token).token⟩) :=
      resolve_of_empty hon
    have ha : a = ⟨r, true, r.infer vocabulary⟩ := by simp only [a, infers, hon, hresolved]; rfl
    refine ⟨ha ▸ Resolved.due_of_empty hb, ?_, ?_⟩
    · rw [hresolved, htoken]
    · rw [hresolved, List.findSome?_append, hb, Option.none_or, List.findSome?_singleton]

theorem lawful_windowsFrom (h : s.After vocabulary past window)
    (hw : LawfulWindow vocabulary window) (calls : List SlotCall) :
    ∀ w ∈ windowsFrom past window (s.history vocabulary calls), LawfulWindow vocabulary w := by
  -- `After` ties the slot to the past, so a call only has to extend the window or begin a new one.
  induction calls generalizing s past window with
  | nil =>
    intro w hmem
    cases List.mem_singleton.1 hmem
    exact hw
  | cons c rest ih =>
    cases c with
    | invalidate =>
      exact List.forall_mem_cons.2 ⟨hw, ih ⟨rfl, rfl⟩ .nil⟩
    | resolve r =>
      obtain ⟨hdue, hnext⟩ := h.resolve r
      rw [history, windowsFrom]
      split
      · next hbegins =>
        rw [if_pos hbegins] at hdue hnext
        exact List.forall_mem_cons.2 ⟨hw, ih hnext (LawfulWindow.nil.snoc hdue)⟩
      · next hbegins =>
        rw [if_neg hbegins] at hdue hnext
        exact ih hnext (hw.snoc hdue)

end After
end SchemaSlot

/-- In every window of every sequence of calls each request gets the schema of the first object of
the window that has one, up to its own, or else the failure for its own; inference succeeds once at
most, and never runs after that. -/
theorem lawful_windows (vocabulary : Vocabulary) (calls : List SlotCall) :
    let events := SchemaSlot.empty.history vocabulary calls
    events.map SlotEvent.call = calls ∧
    (windows events).flatten = events.filterMap (·.resolution?) ∧
    ∀ window ∈ windows events, LawfulWindow vocabulary window := by
  refine ⟨SchemaSlot.map_call_history calls, flatten_windowsFrom, ?_⟩
  exact SchemaSlot.After.lawful_windowsFrom ⟨rfl, rfl⟩ .nil calls

end Windows

/-- A request for an object whose fields have the given tags. -/
def requestFor (token : Option String) (tags : List (String × String)) : SchemaRequest :=
  ⟨none, token, ⟨"Person", tags.map (·.1), fun name => tags.lookup name, fun _ => none⟩⟩

/-- A request fails, and one without a token gets the schema that the next one finds. -/
theorem lawful_windows_mixed :
    let failed := requestFor (some "a") [("tags", "List")]
    let first := requestFor none [("name", "String")]
    let later := requestFor (some "a") [("age", "Integer")]
    let other := requestFor (some "b") [("age", "Integer")]
    let calls := [.resolve failed, .resolve first, .resolve later, .resolve other, .invalidate]
    let window : List Resolved :=
      [⟨failed, true, failed.infer .bolt⟩, ⟨first, true, first.infer .bolt⟩,
        ⟨later, false, pure (.ofFields [("name", .string)])⟩]
    window ∈ windows (SchemaSlot.empty.history .bolt calls) ∧ LawfulWindow .bolt window := by
  intro failed first later other calls window
  have hwindows : windows (SchemaSlot.empty.history .bolt calls) =
      [[], window, [⟨other, true, other.infer .bolt⟩], []] := rfl
  have hmem : window ∈ windows (SchemaSlot.empty.history .bolt calls) := by simp [hwindows]
  obtain ⟨-, -, hlawful⟩ := lawful_windows .bolt calls
  exact ⟨hmem, hlawful window hmem⟩

end KeyedRecords
