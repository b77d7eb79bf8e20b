import Mathlib.Data.List.Induction
import Mathlib.Data.List.Nodup
import KeyedRecords.Graph.Store
import KeyedRecords.Graph.Zone
import KeyedRecords.Proofs.Query.Extraction
import KeyedRecords.Relational.Decoding
import KeyedRecords.Relational.Selection
import KeyedRecords.Store.Memory

/-!
How extracted arguments reach a statement. Slots are numbered anew from 1 on, and binding stops at
the first value that is refused (`Bound.taken_or_refused`); a statement on tables refuses none.
Named parameters keep the positions in their names, from which the positions can be read back
(`Arguments.position?_nameOf`), and so none of them takes the place of another.
-/

namespace KeyedRecords

namespace Keyed

variable {α β : Type} [DecidableEq α] {k : α} {v : β} {ps : List (α × β)}

theorem putIn_of_new (h : k ∉ ps.map (·.1)) : putIn k v ps = ps ++ [(k, v)] := by
  induction ps with
  | nil => rfl
  | cons p rest ih =>
    simp only [List.map_cons, List.mem_cons, not_or] at h
    simp [putIn, Ne.symm h.1, ih h.2]

/-- Pairs without a repeated key make a map of just these pairs. -/
theorem pairs_ofList (h : (ps.map (·.1)).Nodup) : (ofList ps).pairs = ps := by
  induction ps using List.reverseRecOn with
  | nil => rfl
  | append_singleton ps p ih =>
    rw [List.map_append, List.nodup_append] at h
    have hps : (ofList ps).pairs = ps := ih h.1
    have hnew : p.1 ∉ (ofList ps).pairs.map (·.1) := by
      rw [hps]
      intro hmem
      exact h.2.2 _ hmem _ (List.mem_singleton_self _) rfl
    calc (ofList (ps ++ [p])).pairs
        = putIn p.1 p.2 (ofList ps).pairs := by simp [ofList, insert]
      _ = ps ++ [p] := by rw [putIn_of_new hnew, hps]

end Keyed

/-! ## Slots -/

namespace Bound

variable {σ : Type} {bind : σ → Nat → Value → Except LookupError σ} {st st' : σ} {slot : Nat}
  {v : Value} {vs before after : List Value} {e : LookupError}

/-- The statement accepts the values in the slots from `slot` on, and is `st'` with all of them. -/
inductive Takes (bind : σ → Nat → Value → Except LookupError σ) :
    Nat → σ → List Value → σ → Prop
  | nil {slot : Nat} {st : σ} : Takes bind slot st [] st
  | cons {slot : Nat} {st next st' : σ} {v : Value} {rest : List Value}
      (accepted : bind st slot v = .ok next) (others : Takes bind (slot + 1) next rest st') :
      Takes bind slot st (v :: rest) st'

/-- The values with the slots from `slot` on. -/
def slotted (slot : Nat) (vs : List Value) : List (Nat × Value) :=
  (List.range' slot vs.length).zip vs

theorem slotted_cons : slotted slot (v :: vs) = (slot, v) :: slotted (slot + 1) vs := rfl

theorem values_of_takes (h : Takes bind slot st vs st') :
    values bind slot st vs = ⟨st', slotted slot vs, .ok ()⟩ := by
  induction h with
  | nil => rfl
  | cons accepted others ih => simp only [values, accepted, ih, slotted_cons]

/-- Nothing is tried after the first value that is refused. -/
theorem values_of_refused (h : Takes bind slot st before st')
    (he : bind st' (slot + before.length) v = .error e) :
    values bind slot st (before ++ v :: after) =
      ⟨st', slotted slot (before ++ [v]), .error e⟩ := by
  induction h with
  | nil =>
    simp only [List.length_nil, Nat.add_zero] at he
    simp only [List.nil_append, values, he]
    rfl
  | cons accepted others ih =>
    rw [List.length_cons, Nat.add_comm (List.length _), ← Nat.add_assoc] at he
    simp only [List.cons_append, values, accepted, ih he, slotted_cons]

theorem taken_or_refused (bind : σ → Nat → Value → Except LookupError σ) (slot : Nat) (st : σ)
    (vs : List Value) :
    (∃ st', Takes bind slot st vs st') ∨
    ∃ before v after st' e, vs = before ++ v :: after ∧ Takes bind slot st before st' ∧
      bind st' (slot + before.length) v = .error e := by
  induction vs generalizing slot st with
  | nil => exact .inl ⟨st, .nil⟩
  | cons v rest ih =>
    cases hv : bind st slot v with
    | error e => exact .inr ⟨[], v, rest, st, e, rfl, .nil, hv⟩
    | ok next =>
      rcases ih (slot + 1) next with ⟨st', htakes⟩ | ⟨before, w, after, st', e, rfl, htakes, hw⟩
      · exact .inl ⟨st', .cons hv htakes⟩
      · refine .inr ⟨v :: before, w, after, st', e, rfl, .cons hv htakes, ?_⟩
        rwa [List.length_cons, Nat.add_comm before.length, ← Nat.add_assoc]

/-- A statement on tables takes any values in the slots that follow those it has. -/
theorem takes_tableStatement (st : TableStatement) (vs : List Value) :
    Takes TableStatement.bind (st.arguments.length + 1) st vs
      { st with arguments := st.arguments ++ vs } := by
  induction vs generalizing st with
  | nil =>
    rw [List.append_nil]
    exact .nil
  | cons v rest ih =>
    have hrest := ih { st with arguments := st.arguments ++ [v] }
    rw [List.length_append, List.append_assoc] at hrest
    exact .cons (if_pos rfl) hrest

end Bound

/-! ## Names of parameters -/

namespace Arguments

theorem digitsValue_toDigits (n : Nat) : Text.digitsValue (Nat.toDigits 10 n) = n :=
  Nat.ofDigitChars_ten_toDigits

theorem numeral?_toDigits (n : Nat) : Text.numeral? (Nat.toDigits 10 n) = some n := by
  have hdigits : (Nat.toDigits 10 n).all Text.isDigit := by
    refine List.all_eq_true.2 fun d hd => ?_
    have h : d.isDigit := Nat.isDigit_of_mem_toDigits (by decide) (by decide) hd
    simpa [Char.isDigit, Text.isDigit, Char.le_def] using h
  simp [Text.numeral?, Nat.toDigits_ne_nil, hdigits, digitsValue_toDigits]

/-- The name of a parameter tells the position of its argument. -/
theorem position?_nameOf (n : Nat) : position? (nameOf n) = some n := by
  have hname : (nameOf n).toList = 'a' :: 'r' :: 'g' :: Nat.toDigits 10 n :=
    toList_arg_append (Nat.toDigits 10 n)
  rw [position?, hname]
  exact numeral?_toDigits n

theorem nameOf_injective : Function.Injective nameOf := by
  intro m n h
  have hm := position?_nameOf m
  rw [h, position?_nameOf] at hm
  exact (Option.some.inj hm).symm

end Arguments

/-! ## Parameters of a graph query -/

namespace GraphStore

variable {args : Arguments} {name : String} {b : Bolt}

/-- Distinct positions make distinct names, and so nothing is replaced. -/
theorem pairs_parameters (h : args.Pairwise (·.1 < ·.1)) :
    (parameters args).pairs = args.map fun (n, v) => ("arg" ++ toString n, .ofValue v) := by
  refine Keyed.pairs_ofList ?_
  have hpositions : (args.map (·.1)).Nodup := List.pairwise_map.2 (h.imp Nat.ne_of_lt)
  have hnames : (args.map fun p => (Arguments.nameOf p.1, Bolt.ofValue p.2)).map (·.1) =
      (args.map (·.1)).map Arguments.nameOf := by
    simp
  exact hnames ▸ hpositions.map Arguments.nameOf_injective

theorem size_parameters (h : args.Pairwise (·.1 < ·.1)) :
    (parameters args).size = args.length := by
  rw [Keyed.size, pairs_parameters h, List.length_map]

theorem get?_parameters (h : args.Pairwise (·.1 < ·.1)) : (parameters args).get? name = some b ↔
    ∃ n v, (n, v) ∈ args ∧ name = "arg" ++ toString n ∧ b = .ofValue v := by
  rw [← Keyed.mem_pairs_iff, pairs_parameters h, List.mem_map]
  simp [eq_comm]

/-- Whatever comes back, the statement was sent once, with its parameters. -/
theorem sent_request {α : Type} {server : GraphServer} (h : server.accepts) (c : GraphSettings)
    (context statement : String) (parameters : Keyed String Bolt)
    (read : List String → List (List GraphCell) → Except LookupError α) :
    (request c context statement parameters read server).2.sent =
      server.sent ++ [⟨statement, parameters, c.database⟩] := by
  simp only [request, GraphServer.run, h]
  cases server.replies with
  | nil => rfl
  | cons reply rest => cases reply <;> rfl

end GraphStore

namespace Arguments

variable {c : Coordinates} {args : Arguments}

theorem Extracts.of_ok (h : Extracts c (.ok args)) : args.Pairwise (·.1 < ·.1) ∧
    ∀ n v, (n, v) ∈ args ↔ ∃ name, c.get? name = some v ∧ Names name n := by
  have hpast : ¬ ∃ name, Past c name := by
    intro hpast
    obtain ⟨name, -, hanswer⟩ := h.past hpast
    cases hanswer
  have htwice : ¬ ∃ n, Twice c n := by
    intro htwice
    obtain ⟨n, -, hanswer⟩ := h.repeated hpast htwice
    cases hanswer
  obtain ⟨args', hanswer, hargs⟩ := h.listed hpast htwice
  cases hanswer
  exact hargs

/-- The arguments that are extracted are those among the coordinates, in ascending order of their
positions. A new statement on tables takes them all, in the slots from 1 on. Any other statement
takes them all or all before the first that it refuses, whose fault is the outcome. A graph gets a
parameter for each, under a name of its own. -/
theorem delivered_once {σ : Type} (h : extract c = .ok args) :
    (args.Pairwise (·.1 < ·.1) ∧
      ∀ n v, (n, v) ∈ args ↔ ∃ name, c.get? name = some v ∧ Names name n) ∧
    (∀ (decoder : CellDecoder) (d : Tables) (text : String),
      ∃ st, (d.database decoder).prepare text = .ok st ∧
      Bound.arguments (d.database decoder).bind st args = ⟨{ st with arguments := args.map (·.2) },
        Bound.slotted 1 (args.map (·.2)), .ok ()⟩) ∧
    (∀ (bind : σ → Nat → Value → Except LookupError σ) (st : σ),
      (∃ st', Bound.Takes bind 1 st (args.map (·.2)) st' ∧
        Bound.arguments bind st args = ⟨st', Bound.slotted 1 (args.map (·.2)), .ok ()⟩) ∨
      ∃ before v after st' e, args.map (·.2) = before ++ v :: after ∧
        Bound.Takes bind 1 st before st' ∧ bind st' (1 + before.length) v = .error e ∧
        Bound.arguments bind st args = ⟨st', Bound.slotted 1 (before ++ [v]), .error e⟩) ∧
    ∀ (clocks : ZoneClocks) (settings : GraphSettings) (statement column : String)
      (server : GraphServer), server.accepts → ∃ parameters,
        (GraphStore.queryKeys clocks settings statement column args server).2.sent =
          server.sent ++ [⟨statement, parameters, settings.database⟩] ∧
        parameters.size = args.length ∧
        ∀ name b, parameters.get? name = some b ↔
          ∃ n v, (n, v) ∈ args ∧ name = "arg" ++ toString n ∧ b = .ofValue v := by
  obtain ⟨hlt, hmem⟩ := (h ▸ extracts c).of_ok
  refine ⟨⟨hlt, hmem⟩, ?_, ?_, ?_⟩
  · intro decoder d text
    exact ⟨⟨text, []⟩, rfl, Bound.values_of_takes (Bound.takes_tableStatement ⟨text, []⟩ _)⟩
  · intro bind st
    rcases Bound.taken_or_refused bind 1 st (args.map (·.2)) with ⟨st', htakes⟩ |
      ⟨before, v, after, st', e, hargs, htakes, he⟩
    · exact .inl ⟨st', htakes, Bound.values_of_takes htakes⟩
    · refine .inr ⟨before, v, after, st', e, hargs, htakes, he, ?_⟩
      rw [Bound.arguments, hargs]
      exact Bound.values_of_refused htakes he
  · intro clocks settings statement column server haccepts
    exact ⟨GraphStore.parameters args, GraphStore.sent_request haccepts ..,
      GraphStore.size_parameters hlt, fun _ _ => GraphStore.get?_parameters hlt⟩

/-- Positions with gaps between them, one of them written with zeros in front. -/
def gapped : Coordinates :=
  ⟨[("arg10", .boolean true), ("key", .null), ("arg007", .string "x"), ("arg2", .long 1)],
    by decide⟩

def gappedArguments : Arguments := [(2, .long 1), (7, .string "x"), (10, .boolean true)]

/-- A statement that takes no strings. -/
def stringless : SlotRecorder := { refused := ["string"] }

theorem delivered_once_gapped : extract gapped = .ok gappedArguments ∧
    (∃ st, ((Tables.ofList []).database .byKind).prepare "SELECT ?" = .ok st ∧
      Bound.arguments ((Tables.ofList []).database .byKind).bind st gappedArguments =
        ⟨{ st with arguments := [.long 1, .string "x", .boolean true] },
          [(1, .long 1), (2, .string "x"), (3, .boolean true)], .ok ()⟩) ∧
    (∃ before v after st' e,
      [Value.long 1, .string "x", .boolean true] = before ++ v :: after ∧
      Bound.Takes SlotRecorder.bind 1 stringless before st' ∧
      SlotRecorder.bind st' (1 + before.length) v = .error e ∧
      Bound.arguments SlotRecorder.bind stringless gappedArguments =
        ⟨st', Bound.slotted 1 (before ++ [v]), .error e⟩) ∧
    ∃ parameters, (GraphStore.queryKeys .listed { } "RETURN 1" "k" gappedArguments { }).2.sent =
        [⟨"RETURN 1", parameters, "neo4j"⟩] ∧
      parameters.size = 3 ∧ parameters.get? "arg7" = some (.ofValue (.string "x")) := by
  have hcollect : collect gapped.pairs =
      .ok [(10, .boolean true), (7, .string "x"), (2, .long 1)] := by
    decide
  have hsort : sort [(10, .boolean true), (7, .string "x"), (2, .long 1)] = gappedArguments := by
    simp [sort, List.mergeSort, List.MergeSort.Internal.splitInTwo, gappedArguments]
  have h : extract gapped = .ok gappedArguments := by
    simp only [extract, hcollect, hsort]
    rfl
  have hrefused :
      (Bound.arguments SlotRecorder.bind stringless gappedArguments).outcome.isOk = false := by
    decide
  obtain ⟨-, htables, hany, hgraph⟩ := delivered_once (σ := SlotRecorder) h
  obtain ⟨parameters, hsent, hsize, hget⟩ := hgraph .listed { } "RETURN 1" "k" { } rfl
  refine ⟨h, htables .byKind (Tables.ofList []) "SELECT ?",
    (hany SlotRecorder.bind stringless).resolve_left ?_, parameters, hsent, hsize, ?_⟩
  · rintro ⟨st', -, hbound⟩
    rw [hbound] at hrefused
    cases hrefused
  · exact (hget "arg7" _).2 ⟨7, .string "x", by decide, by decide, rfl⟩

end Arguments

end KeyedRecords
