import KeyedRecords.Inference

/-!
What inference gives. If the vocabulary has a field type for the tag of each retained name, the
schema has the retained names in their order, each with that type; else inference fails as the
vocabulary does for the first retained name without one. Nothing else of the object matters
(`inferSchema_congr`).
-/

namespace KeyedRecords

namespace Keyed

variable {α β : Type} [DecidableEq α] {k : α} {ps : List (α × β)}

private theorem get?_foldl_first (m : Keyed α β) :
    (ps.foldl (fun m p => if m.contains p.1 then m else m.insert p.1 p.2) m).get? k =
      (m.get? k).or (valueIn k ps) := by
  induction ps generalizing m with
  | nil => simp [valueIn]
  | cons p rest ih =>
    obtain ⟨k', v⟩ := p
    rw [List.foldl_cons, ih]
    by_cases hm : m.contains k'
    · rw [if_pos hm]
      by_cases hk : k' = k
      · subst hk
        obtain ⟨w, hw⟩ := Option.isSome_iff_exists.1 hm
        simp [hw]
      · simp [valueIn, hk]
    · rw [if_neg hm, get?_insert]
      by_cases hk : k' = k
      · subst hk
        have hnone : m.get? k' = none := by simpa [contains] using hm
        simp [valueIn, hnone]
      · simp [valueIn, hk]

/-- Of several pairs with one key the first counts. -/
theorem get?_ofFirst : (ofFirst ps).get? k = valueIn k ps := by
  rw [ofFirst, get?_foldl_first, get?_empty, Option.none_or]

private theorem keys_foldl_first (m : Keyed α β) :
    (ps.foldl (fun m p => if m.contains p.1 then m else m.insert p.1 p.2) m).keys =
      m.keys ++ ((ps.map (·.1)).filter (· ∉ m.keys)).eraseDups := by
  induction ps generalizing m with
  | nil => simp
  | cons p rest ih =>
    obtain ⟨k, v⟩ := p
    have hcontains : m.contains k ↔ k ∈ m.keys := by
      rw [contains, Option.isSome_iff_exists, mem_keys_iff]
    rw [List.foldl_cons, ih, List.map_cons]
    by_cases hk : k ∈ m.keys
    · rw [if_pos (hcontains.2 hk), List.filter_cons_of_neg (by simpa using hk)]
    · have hrest : (rest.map (·.1)).filter (· ∉ m.keys ++ [k]) =
          ((rest.map (·.1)).filter (· ∉ m.keys)).filter (!· == k) := by
        simp [List.filter_filter, Bool.and_comm]
        rfl
      rw [if_neg (mt hcontains.1 hk), List.filter_cons_of_pos (by simpa using hk),
        List.eraseDups_cons, keys_insert, if_neg hk, hrest, List.append_assoc]
      rfl

/-- Each key has the place where it comes first. -/
theorem keys_ofFirst : (ofFirst ps).keys = (ps.map (·.1)).eraseDups := by
  have hnew : (ps.map (·.1)).filter (· ∉ (empty : Keyed α β).keys) = ps.map (·.1) := by
    simp [empty, keys]
  rw [ofFirst, keys_foldl_first, hnew]
  rfl

omit [DecidableEq α] in
theorem mapValues_congr {γ : Type} {m : Keyed α β} {f g : α → β → γ}
    (h : ∀ k ∈ m.keys, ∀ v, f k v = g k v) : m.mapValues f = m.mapValues g := by
  rw [mapValues, mapValues, mk.injEq]
  exact List.map_congr_left fun p hp => by rw [h p.1 (List.mem_map_of_mem hp)]

end Keyed

namespace Traced

variable {α β : Type}

@[simp] theorem outcome_pure (a : α) : (Pure.pure a : Traced α).outcome = .ok a := rfl

theorem outcome_bind_eq_ok_iff {x : Traced α} {f : α → Traced β} {b : β} :
    (x >>= f).outcome = .ok b ↔ ∃ a, x.outcome = .ok a ∧ (f a).outcome = .ok b := by
  rw [outcome_bind]
  cases x.outcome <;> simp [Bind.bind, Except.bind]

theorem outcome_mapError_eq_ok_iff {x : Traced α} {f : LookupError → LookupError} {a : α} :
    (x.mapError f).outcome = .ok a ↔ x.outcome = .ok a := by
  obtain ⟨calls, outcome⟩ := x
  cases outcome with
  | error e => constructor <;> intro h <;> cases h
  | ok b => exact Iff.rfl

end Traced

namespace Inference

variable {vocabulary : Vocabulary} {allowed : Option (List String)} {v w : TaggedView}
  {name : String} {type : FieldType} {names : List String} {ps : List (String × FieldType)}
  {schema : Schema} {e : LookupError}

theorem isRetained_iff :
    isRetained allowed name ↔
      name ≠ "this$0" ∧ ∀ names, allowed = some names → name ∈ names := by
  cases allowed <;> simp [isRetained, backReference]

/-! ## The fields -/

theorem fieldType_eq_ok_iff :
    (fieldType vocabulary v name).outcome = .ok type ↔ vocabulary (tagOf v name) = .ok type := by
  rw [fieldType, Traced.outcome_mapError_eq_ok_iff, Traced.call]

theorem fields_cons_eq_ok_iff :
    (fields vocabulary v (name :: names)).outcome = .ok ps ↔
      ∃ type, vocabulary (tagOf v name) = .ok type ∧
        ∃ others, (fields vocabulary v names).outcome = .ok others ∧
          (name, type) :: others = ps := by
  simp only [fields, Traced.outcome_bind_eq_ok_iff, fieldType_eq_ok_iff, Traced.outcome_pure,
    Except.ok.injEq]

/-- The fields are the given names in their order, each with the type for its tag. -/
theorem fields_eq_ok_iff :
    (fields vocabulary v names).outcome = .ok ps ↔
      ps.map (·.1) = names ∧ ∀ p ∈ ps, vocabulary (tagOf v p.1) = .ok p.2 := by
  induction names generalizing ps with
  | nil =>
    rw [List.map_eq_nil_iff]
    constructor
    · intro h
      cases h
      simp
    · rintro ⟨rfl, -⟩
      rfl
  | cons name rest ih =>
    rw [fields_cons_eq_ok_iff]
    constructor
    · rintro ⟨type, hv, others, ho, rfl⟩
      obtain ⟨hnames, htypes⟩ := ih.1 ho
      refine ⟨by rw [List.map_cons, hnames], ?_⟩
      intro p hp
      rcases List.mem_cons.1 hp with rfl | hp
      · exact hv
      · exact htypes p hp
    · rintro ⟨hnames, htypes⟩
      obtain ⟨⟨name', type⟩, others, rfl, rfl, hrest⟩ := List.map_eq_cons_iff.1 hnames
      refine ⟨type, htypes _ List.mem_cons_self, others, ?_, rfl⟩
      exact ih.2 ⟨hrest, fun p hp => htypes p (List.mem_cons_of_mem _ hp)⟩

/-- It is the first name without a field type that fails, and the failure gets this name. -/
theorem fields_eq_error_iff :
    (fields vocabulary v names).outcome = .error e ↔ ∃ name cause,
      names.find? (fun name => !(vocabulary (tagOf v name)).isOk) = some name ∧
        vocabulary (tagOf v name) = .error cause ∧ e = withField name cause := by
  induction names with
  | nil =>
    constructor
    · intro h
      cases h
    · rintro ⟨_, _, h, -⟩
      cases h
  | cons name rest ih =>
    simp only [fields, Traced.outcome_bind, List.find?_cons]
    cases hname : vocabulary (tagOf v name) with
    | error cause =>
      have hfirst : (fieldType vocabulary v name).outcome = .error (withField name cause) :=
        congrArg (Except.mapError (withField name)) hname
      simp [hfirst, Bind.bind, Except.bind, Except.isOk, Except.toBool, hname, eq_comm]
    | ok type =>
      have hfirst : (fieldType vocabulary v name).outcome = .ok type :=
        congrArg (Except.mapError (withField name)) hname
      have haccepted : (!(Except.ok type : Except LookupError FieldType).isOk) = false := rfl
      simp only [hfirst, haccepted, ← ih]
      cases (fields vocabulary v rest).outcome <;> simp [Bind.bind, Except.bind]

theorem fields_congr (h : ∀ name ∈ names, tagOf v name = tagOf w name) :
    fields vocabulary v names = fields vocabulary w names := by
  induction names with
  | nil => rfl
  | cons name rest ih =>
    obtain ⟨hname, hrest⟩ := List.forall_mem_cons.1 h
    have htype : fieldType vocabulary v name = fieldType vocabulary w name := by
      simp only [fieldType, hname]
    rw [fields, fields, htype, ih hrest]

/-! ## The schema -/

theorem inferSchema_eq_ok_iff :
    (inferSchema vocabulary allowed v).outcome = .ok schema ↔
      ∃ ps, (ps.map (·.1) = retainedNames allowed v ∧
        ∀ p ∈ ps, vocabulary (tagOf v p.1) = .ok p.2) ∧ .ofFields ps = schema := by
  simp only [inferSchema, Traced.outcome_bind_eq_ok_iff, fields_eq_ok_iff, Traced.outcome_pure,
    Except.ok.injEq]

theorem outcome_inferSchema (vocabulary : Vocabulary) (allowed : Option (List String))
    (v : TaggedView) : (inferSchema vocabulary allowed v).outcome =
      (fields vocabulary v (retainedNames allowed v)).outcome.map .ofFields := by
  rw [inferSchema, Traced.outcome_bind]
  cases (fields vocabulary v (retainedNames allowed v)).outcome <;> rfl

/-- An inferred schema has the retained names, each where it comes first. -/
theorem names_eq (h : (inferSchema vocabulary allowed v).outcome = .ok schema) :
    schema.names = (retainedNames allowed v).eraseDups := by
  obtain ⟨ps, ⟨hnames, -⟩, rfl⟩ := inferSchema_eq_ok_iff.1 h
  rw [← hnames]
  exact Keyed.keys_ofFirst

theorem mem_names_iff (h : (inferSchema vocabulary allowed v).outcome = .ok schema) :
    name ∈ schema.names ↔ name ∈ retainedNames allowed v := by
  rw [names_eq h, List.mem_eraseDups]

theorem type_of_field (h : (inferSchema vocabulary allowed v).outcome = .ok schema)
    (hf : schema.fields.get? name = some type) : vocabulary (tagOf v name) = .ok type := by
  obtain ⟨ps, ⟨-, htypes⟩, rfl⟩ := inferSchema_eq_ok_iff.1 h
  have hps : Keyed.valueIn name ps = some type := Keyed.get?_ofFirst.symm.trans hf
  exact htypes (name, type) (Keyed.mem_of_valueIn hps)

theorem inferSchema_eq_error_iff :
    (inferSchema vocabulary allowed v).outcome = .error e ↔ ∃ name cause,
      (retainedNames allowed v).find? (fun name => !(vocabulary (tagOf v name)).isOk) = some name ∧
        vocabulary (tagOf v name) = .error cause ∧ e = withField name cause := by
  rw [← fields_eq_error_iff, outcome_inferSchema]
  cases (fields vocabulary v (retainedNames allowed v)).outcome <;> simp [Except.map]

theorem exists_schema_iff :
    (∃ schema, (inferSchema vocabulary allowed v).outcome = .ok schema) ↔
      ∀ name ∈ retainedNames allowed v, ∃ type, vocabulary (tagOf v name) = .ok type := by
  constructor
  · rintro ⟨schema, h⟩ name hname
    obtain ⟨type, htype⟩ := Keyed.mem_keys_iff.1 ((mem_names_iff h).2 hname)
    exact ⟨type, type_of_field h htype⟩
  · intro h
    cases ho : (inferSchema vocabulary allowed v).outcome with
    | ok schema => exact ⟨schema, rfl⟩
    | error e =>
      obtain ⟨name, cause, hfind, hcause, -⟩ := inferSchema_eq_error_iff.1 ho
      obtain ⟨type, htype⟩ := h name (List.mem_of_find?_eq_some hfind)
      cases htype.symm.trans hcause

/-- Inference looks at the retained names and their tags only. -/
theorem inferSchema_congr (hnames : retainedNames allowed v = retainedNames allowed w)
    (htags : ∀ name ∈ retainedNames allowed v, tagOf v name = tagOf w name) :
    inferSchema vocabulary allowed v = inferSchema vocabulary allowed w := by
  rw [inferSchema, inferSchema, ← hnames, fields_congr htags]

/-- Inference is all or nothing. It succeeds exactly if the vocabulary has a field type for the tag
of each retained name, and then the schema has these names in their order, of equal names the first,
with their types. Else the first retained name without a type makes it fail, as the vocabulary does,
but with this name where the failure is that of a tag. The tags of other names do not matter. -/
theorem inferred_iff_accepted (vocabulary : Vocabulary) (allowed : Option (List String))
    (v : TaggedView) :
    let retained := v.names.filter fun name =>
      name != "this$0" && allowed.all fun names => names.contains name
    let type name := vocabulary ((v.tag? name).getD "")
    let outcome := (inferSchema vocabulary allowed v).outcome
    ((∃ schema, outcome = .ok schema) ↔ ∀ name ∈ retained, ∃ t, type name = .ok t) ∧
    (∀ schema, outcome = .ok schema →
      schema.names = retained.eraseDups ∧ ∀ p ∈ schema.fields.pairs, type p.1 = .ok p.2) ∧
    (∀ e, outcome = .error e ↔ ∃ name cause,
      retained.find? (fun name => !(type name).isOk) = some name ∧ type name = .error cause ∧
        e = match cause with
          | .unsupportedType tag _ => .unsupportedType tag (some name)
          | cause => cause) ∧
    ∀ w : TaggedView, w.names = v.names → (∀ name ∈ retained, w.tag? name = v.tag? name) →
      inferSchema vocabulary allowed w = inferSchema vocabulary allowed v := by
  intro retained type outcome
  have hretained : retained = retainedNames allowed v := by cases allowed <;> rfl
  refine ⟨?_, fun schema h => ⟨?_, fun p hp => ?_⟩, fun e => ?_, fun w hnames htags => ?_⟩
  · rw [hretained]
    exact exists_schema_iff
  · rw [hretained]
    exact names_eq h
  · exact type_of_field h (Keyed.mem_pairs_iff.1 hp)
  · rw [hretained]
    exact inferSchema_eq_error_iff
  · have hsame : retainedNames allowed w = retainedNames allowed v := by
      rw [retainedNames, hnames, retainedNames]
    refine inferSchema_congr hsame fun name hname => ?_
    rw [tagOf, tagOf, htags name (hretained ▸ hsame ▸ hname)]

/-- A name that comes twice, a back reference and a name that is not allowed; these two have tags
without a field type. -/
def looseView : TaggedView where
  typeName := "Person"
  names := ["name", "this$0", "age", "name", "born"]
  tag? name := [("name", "String"), ("born", "DateTime"), ("age", "List")].lookup name
  value? _ := none

/-- The same without any tag but that of the name. -/
def looserView : TaggedView :=
  { looseView with tag? := fun name => if name = "name" then some "String" else none }

theorem inferred_iff_accepted_loose :
    (∃ schema, (inferSchema .bolt (some ["name", "this$0", "born"]) looseView).outcome =
      .ok schema ∧ schema.names = ["name", "born"]) ∧
    (inferSchema .bolt none looseView).outcome =
      .error (.unsupportedType "List" (some "age")) ∧
    inferSchema .bolt (some ["name"]) looserView = inferSchema .bolt (some ["name"]) looseView := by
  refine ⟨?_, ?_, ?_⟩
  · obtain ⟨haccepted, hschema, -⟩ :=
      inferred_iff_accepted .bolt (some ["name", "this$0", "born"]) looseView
    have htypes : ∀ name ∈ ["name", "name", "born"],
        ∃ t, Vocabulary.bolt ((looseView.tag? name).getD "") = .ok t := by
      simpa using ⟨⟨_, rfl⟩, ⟨_, rfl⟩⟩
    obtain ⟨schema, h⟩ := haccepted.2 htypes
    exact ⟨schema, h, (hschema schema h).1⟩
  · obtain ⟨-, -, hfailed, -⟩ := inferred_iff_accepted .bolt none looseView
    exact (hfailed _).2 ⟨"age", .unsupportedType "List" none, by decide, rfl, rfl⟩
  · obtain ⟨-, -, -, hsame⟩ := inferred_iff_accepted .bolt (some ["name"]) looseView
    refine hsame looserView rfl ?_
    decide

end Inference

namespace Record

variable {v : TaggedView} {schema : Schema} {name : String}

theorem get?_build (h : name ∈ schema.names) :
    (build v schema).get? name = some ((v.value? name).getD .null) := by
  obtain ⟨type, ht⟩ := Keyed.mem_keys_iff.1 h
  simp [Record.get?, build, ht]

theorem build_congr {w : TaggedView} (h : ∀ name ∈ schema.names, v.value? name = w.value? name) :
    build v schema = build w schema := by
  rw [build, build, Keyed.mapValues_congr fun name hname _ => by rw [h name hname]]

end Record

section InferRecord

variable {vocabulary : Vocabulary} {allowed : Option (List String)}

/-- The record of an object is built with the schema inferred from it. -/
theorem outcome_inferRecord (v : TaggedView) : (inferRecord vocabulary allowed v).outcome =
    (inferSchema vocabulary allowed v).outcome.map (.build v) := by
  unfold inferRecord
  rw [Traced.outcome_bind]
  cases (inferSchema vocabulary allowed v).outcome <;> rfl

/-- Of the names that are not retained neither the tags nor the values matter. -/
theorem outcome_inferRecord_congr {v w : TaggedView}
    (hnames : Inference.retainedNames allowed v = Inference.retainedNames allowed w)
    (htags : ∀ name ∈ Inference.retainedNames allowed v,
      Inference.tagOf v name = Inference.tagOf w name)
    (hvalues : ∀ name ∈ Inference.retainedNames allowed v, v.value? name = w.value? name) :
    (inferRecord vocabulary allowed v).outcome = (inferRecord vocabulary allowed w).outcome := by
  rw [outcome_inferRecord, outcome_inferRecord, ← Inference.inferSchema_congr hnames htags]
  cases h : (inferSchema vocabulary allowed v).outcome with
  | error e => rfl
  | ok schema =>
    have hbuild : Record.build v schema = Record.build w schema :=
      Record.build_congr fun name hname => hvalues name ((Inference.mem_names_iff h).1 hname)
    simp only [Except.map, hbuild]

end InferRecord

end KeyedRecords
