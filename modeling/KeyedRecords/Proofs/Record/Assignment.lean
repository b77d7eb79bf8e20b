import KeyedRecords.Proofs.Cache.Shapes
import KeyedRecords.Proofs.Occurrences
import KeyedRecords.Relational.Decoding

/-!
Objects whose fields are set one after the other, some of them more than once. The tags, in the
order of the fields, and the values may be kept apart and brought up to date each by itself: the
parts stay those of one object (`PartedObject.Matches.assign`). In it a name is listed once, where
it was set first, and has the tag and the value with which it was set last; so of columns with one
name a row keeps the last, its type as well as its value (`recalls_assigned`).
-/

namespace KeyedRecords

/-! ## Maps that are filled pair by pair -/

namespace Keyed

variable {α β γ : Type} [DecidableEq α]

theorem ofList_concat (ps : List (α × β)) (p : α × β) :
    ofList (ps ++ [p]) = (ofList ps).insert p.1 p.2 := by
  rw [ofList, List.foldl_concat, ofList]

/-- Each key has the place where it comes first. -/
theorem keys_ofList (ps : List (α × β)) : (ofList ps).keys = (ps.map (·.1)).eraseDups := by
  induction ps using List.reverseRecOn with
  | nil => rfl
  | append_singleton ps p ih =>
    rw [ofList_concat, keys_insert, ih, List.map_append, List.map_singleton]
    by_cases hp : p.1 ∈ ps.map (·.1)
    · rw [if_pos (List.mem_eraseDups.2 hp), eraseDups_concat_of_mem hp]
    · rw [if_neg (mt List.mem_eraseDups.1 hp), eraseDups_concat_of_not_mem hp]

/-- Of several pairs with one key the last counts. -/
theorem get?_ofList_of_last (before : List (α × β)) (k : α) (v : β) {after : List (α × β)}
    (h : ∀ p ∈ after, p.1 ≠ k) : (ofList (before ++ (k, v) :: after)).get? k = some v := by
  induction after using List.reverseRecOn with
  | nil => rw [ofList_concat, get?_insert, if_pos rfl]
  | append_singleton after p ih =>
    -- The pair that comes in addition has another key and leaves the value as it is.
    obtain ⟨hafter, hp⟩ := List.forall_mem_append.1 h
    have hassoc : before ++ (k, v) :: (after ++ [p]) = (before ++ (k, v) :: after) ++ [p] := by
      simp
    rw [hassoc, ofList_concat, get?_insert, if_neg (hp p (List.mem_singleton_self p)), ih hafter]

theorem map_putIn (f : β → γ) (k : α) (v : β) (ps : List (α × β)) :
    (putIn k v ps).map (fun p => (p.1, f p.2)) =
      putIn k (f v) (ps.map fun p => (p.1, f p.2)) := by
  induction ps with
  | nil => rfl
  | cons p rest ih =>
    by_cases hp : p.1 = k
    · simp [putIn, hp]
    · simp [putIn, hp, ih]

theorem find?_eq_valueIn (k : α) (ps : List (α × β)) :
    (ps.find? (·.1 == k)).map (·.2) = valueIn k ps := by
  induction ps with
  | nil => rfl
  | cons p rest ih =>
    by_cases hp : p.1 = k
    · simp [valueIn, hp]
    · simp [valueIn, hp, ih]

end Keyed

/-! ## Objects -/

/-- A field as it is set: its name, and the tag and the value that it is given. -/
abbrev Assignment := String × TaggedField

/-- What an object shows after the fields were set on a new one: each name once, in the order in
which they were set first, with the tag and the value of when it was set last, and no other name. -/
structure TaggedView.Recalls (v : TaggedView) (fs : List Assignment) : Prop where
  order : InFirstOrder (fs.map (·.1)) v.names
  nodup : v.names.Nodup
  last : ∀ before name f after, fs = before ++ (name, f) :: after →
    (∀ later ∈ after, later.1 ≠ name) → v.tag? name = some f.tag ∧ v.value? name = some f.value
  tagged_iff : ∀ name, (∃ tag, v.tag? name = some tag) ↔ name ∈ v.names
  valued_iff : ∀ name, (∃ value, v.value? name = some value) ↔ name ∈ v.names

namespace TaggedObject

/-- The fields are set one after the other. -/
def assign (o : TaggedObject) (fs : List Assignment) : TaggedObject :=
  fs.foldl (fun o f => o.setField f.1 f.2.tag f.2.value) o

theorem fields_assign_new (typeName : String) (fs : List Assignment) :
    ((new typeName).assign fs).fields = .ofList fs :=
  (List.foldl_hom fields fun _ _ => rfl).symm

theorem names_assign_new (typeName : String) (fs : List Assignment) :
    ((new typeName).assign fs).names = (fs.map (·.1)).eraseDups := by
  rw [names, fields_assign_new, Keyed.keys_ofList]

theorem size_assign_new (typeName : String) (fs : List Assignment) :
    ((new typeName).assign fs).size = (fs.map (·.1)).toFinset.card := by
  calc ((new typeName).assign fs).size
      = ((new typeName).assign fs).names.length := Keyed.size_eq_length_keys _
    _ = (fs.map (·.1)).toFinset.card := by rw [names_assign_new, length_eraseDups]

theorem tagged_iff (o : TaggedObject) (name : String) :
    (∃ tag, o.tag? name = some tag) ↔ name ∈ o.names := by
  rw [names, Keyed.mem_keys_iff, tag?]
  cases o.fields.get? name <;> simp

theorem valued_iff (o : TaggedObject) (name : String) :
    (∃ value, o.value? name = some value) ↔ name ∈ o.names := by
  rw [names, Keyed.mem_keys_iff, value?]
  cases o.fields.get? name <;> simp

theorem recalls_assign (typeName : String) (fs : List Assignment) :
    ((new typeName).assign fs).view.Recalls fs where
  order := by
    rw [view, names_assign_new]
    exact inFirstOrder_eraseDups _
  nodup := Keyed.distinct _
  last := by
    rintro before name f after rfl hlater
    have hfield := Keyed.get?_ofList_of_last before name f hlater
    simp only [view, tag?, value?, fields_assign_new, hfield, Option.map_some, and_self]
  tagged_iff := tagged_iff _
  valued_iff := valued_iff _

end TaggedObject

/-! ## Parts -/

/-- An object in parts that need not agree by themselves: the tags of its fields, in the order of
these, and the values. -/
structure PartedObject where
  typeName : String
  tags : List (String × String)
  values : Keyed String Value

namespace PartedObject

def new (typeName : String) : PartedObject := ⟨typeName, [], .empty⟩

/-- The first field with the name takes the tag where it is; if there is none, one comes last. -/
def setTag (tags : List (String × String)) (name tag : String) : List (String × String) :=
  match tags.findIdx? (·.1 == name) with
  | some i => tags.modify i fun field => (field.1, tag)
  | none => tags ++ [(name, tag)]

/-- Each part is brought up to date without a look at the other. -/
def setField (p : PartedObject) (name tag : String) (value : Value) : PartedObject :=
  { p with tags := setTag p.tags name tag, values := p.values.insert name value }

def assign (p : PartedObject) (fs : List Assignment) : PartedObject :=
  fs.foldl (fun p f => p.setField f.1 f.2.tag f.2.value) p

def size (p : PartedObject) : Nat := p.tags.length

def view (p : PartedObject) : TaggedView where
  typeName := p.typeName
  names := p.tags.map (·.1)
  tag? name := (p.tags.find? (·.1 == name)).map (·.2)
  value? := p.values.get?

theorem setTag_eq_putIn (tags : List (String × String)) (name tag : String) :
    setTag tags name tag = Keyed.putIn name tag tags := by
  induction tags with
  | nil => rfl
  | cons field rest ih =>
    rw [setTag, List.findIdx?_cons, Keyed.putIn]
    by_cases hname : field.1 = name
    · simp [hname]
    · rw [if_neg (by simpa using hname), if_neg hname, ← ih, setTag]
      cases rest.findIdx? (·.1 == name) <;> rfl

/-- The parts are those of the object. In which order the values are kept shows nowhere. -/
structure Matches (p : PartedObject) (o : TaggedObject) : Prop where
  typeName_eq : p.typeName = o.typeName
  tags_eq : p.tags = o.shape
  value?_eq : ∀ name, p.values.get? name = o.value? name

variable {p : PartedObject} {o : TaggedObject}

theorem matches_new (typeName : String) : (new typeName).Matches (.new typeName) where
  typeName_eq := rfl
  tags_eq := rfl
  value?_eq _ := rfl

namespace Matches

theorem setField (h : p.Matches o) (name tag : String) (value : Value) :
    (p.setField name tag value).Matches (o.setField name tag value) where
  typeName_eq := h.typeName_eq
  tags_eq := by
    calc setTag p.tags name tag
        = Keyed.putIn name tag o.shape := by rw [setTag_eq_putIn, h.tags_eq]
      _ = (o.setField name tag value).shape :=
          (Keyed.map_putIn TaggedField.tag name ⟨tag, value⟩ o.fields.pairs).symm
  value?_eq other := by
    rw [TaggedObject.value?_setField, ← h.value?_eq]
    exact Keyed.get?_insert p.values name other value

theorem assign (h : p.Matches o) (fs : List Assignment) : (p.assign fs).Matches (o.assign fs) := by
  induction fs generalizing p o with
  | nil => exact h
  | cons f rest ih => exact ih (h.setField f.1 f.2.tag f.2.value)

theorem view_eq (h : p.Matches o) : p.view = o.view := by
  have hnames : p.tags.map (·.1) = o.names := by rw [h.tags_eq, o.names_eq_map_shape]
  have htags : (fun name => (p.tags.find? (·.1 == name)).map (·.2)) = o.tag? := by
    funext name
    rw [Keyed.find?_eq_valueIn, h.tags_eq, o.tag?_eq_valueIn_shape]
  have hvalues : p.values.get? = o.value? := funext h.value?_eq
  simp only [view, TaggedObject.view, h.typeName_eq, hnames, htags, hvalues]

theorem size_eq (h : p.Matches o) : p.size = o.size := by
  rw [size, h.tags_eq, TaggedObject.shape, List.length_map]
  rfl

end Matches

end PartedObject

/-! ## Rows -/

namespace ResultCell

/-- The field that a column sets, if its cell has a value. -/
def assignment? (decoder : CellDecoder) (c : ResultCell) : Option Assignment :=
  (c.value decoder).toOption.map fun v => (c.name, ⟨c.type.tag, v⟩)

variable {decoder : CellDecoder} {c : ResultCell} {f : Assignment} {row : List ResultCell}
  {o o' : TaggedObject}

theorem assignment?_eq_some_iff : c.assignment? decoder = some f ↔
    f.1 = c.name ∧ f.2.tag = c.type.tag ∧ c.value decoder = .ok f.2.value := by
  obtain ⟨name, tag, value⟩ := f
  rw [assignment?]
  cases c.value decoder with
  | error fault => simp [Except.toOption]
  | ok v => simp [Except.toOption, eq_comm]

theorem isSome_assignment?_iff :
    (c.assignment? decoder).isSome ↔ ∃ v, c.value decoder = .ok v := by
  rw [assignment?]
  cases c.value decoder <;> simp [Except.toOption]

theorem foldlM_addTo_eq_ok_iff : row.foldlM (addTo decoder) o = .ok o' ↔
    (∀ c ∈ row, (c.assignment? decoder).isSome) ∧
      o' = o.assign (row.filterMap (assignment? decoder)) := by
  induction row generalizing o with
  | nil =>
    constructor
    · rintro ⟨⟩
      exact ⟨nofun, rfl⟩
    · rintro ⟨-, rfl⟩
      rfl
  | cons c rest ih =>
    rw [List.foldlM_cons, List.forall_mem_cons, addTo, List.filterMap_cons, assignment?]
    cases c.value decoder with
    | error fault => simp [Except.toOption, Bind.bind, Except.bind]
    | ok v => simpa [Except.toOption, Bind.bind, Except.bind, TaggedObject.assign] using ih

end ResultCell

section Rows

variable {decoder : CellDecoder} {row before after : List ResultCell} {c : ResultCell}
  {o : TaggedObject}

theorem rowObject_eq_ok_iff : rowObject decoder row = .ok o ↔
    (∀ c ∈ row, (c.assignment? decoder).isSome) ∧
      o = (TaggedObject.new "row").assign (row.filterMap (ResultCell.assignment? decoder)) :=
  ResultCell.foldlM_addTo_eq_ok_iff

theorem exists_rowObject_iff :
    (∃ o, rowObject decoder row = .ok o) ↔ ∀ c ∈ row, ∃ v, c.value decoder = .ok v := by
  simp only [rowObject_eq_ok_iff, ResultCell.isSome_assignment?_iff, exists_and_left,
    exists_eq, and_true]

/-- A cell of the wrong kind fails the row even if a later column has the same name. -/
example : rowObject .byKind [⟨"x", some .integer, .text "a"⟩, ⟨"x", none, .integer 1⟩] =
    .error (.database (.undecodable "x")) := rfl

theorem names_filterMap_assignment? (h : ∀ c ∈ row, (c.assignment? decoder).isSome) :
    (row.filterMap (ResultCell.assignment? decoder)).map (·.1) = row.map (·.name) := by
  rw [List.map_filterMap, List.filterMap_eq_map_iff_forall_eq_some]
  intro c hc
  obtain ⟨f, hf⟩ := Option.isSome_iff_exists.1 (h c hc)
  rw [hf, Option.map_some, (ResultCell.assignment?_eq_some_iff.1 hf).1]

theorem order_rowObject (h : rowObject decoder row = .ok o) :
    InFirstOrder (row.map (·.name)) o.names := by
  obtain ⟨hcells, rfl⟩ := rowObject_eq_ok_iff.1 h
  rw [← names_filterMap_assignment? hcells]
  exact (TaggedObject.recalls_assign "row" _).order

theorem last_rowObject (h : rowObject decoder (before ++ c :: after) = .ok o)
    (hlater : ∀ later ∈ after, later.name ≠ c.name) :
    o.tag? c.name = some c.type.tag ∧ o.value? c.name = (c.value decoder).toOption := by
  obtain ⟨hcells, rfl⟩ := rowObject_eq_ok_iff.1 h
  obtain ⟨f, hf⟩ := Option.isSome_iff_exists.1 (hcells c (by simp))
  obtain ⟨hname, htag, hvalue⟩ := ResultCell.assignment?_eq_some_iff.1 hf
  -- The column that is last of its name among the columns sets the last field of that name.
  have hsplit : (before ++ c :: after).filterMap (ResultCell.assignment? decoder) =
      before.filterMap (ResultCell.assignment? decoder) ++
        (c.name, f.2) :: after.filterMap (ResultCell.assignment? decoder) := by
    rw [List.filterMap_append, List.filterMap_cons_some hf, ← hname]
  have hlast : ∀ g ∈ after.filterMap (ResultCell.assignment? decoder), g.1 ≠ c.name := by
    intro g hg
    obtain ⟨later, hmem, hlater'⟩ := List.mem_filterMap.1 hg
    rw [(ResultCell.assignment?_eq_some_iff.1 hlater').1]
    exact hlater later hmem
  rw [← htag, hvalue]
  exact (TaggedObject.recalls_assign "row" _).last _ _ _ _ hsplit hlast

end Rows

/-- However often fields are set on a new object, its names are those that were set, each once and
in the order of their first occurrences, and a name has the tag and the value of its last one. So
it is if the tags and the values are kept apart, which shows just what the object shows. However
cells are decoded, a row whose cells all have values, and only such a row, is an object; its names
are those of the columns, and of the columns with one name the last gives the tag and the value. -/
theorem recalls_assigned :
    (∀ (typeName : String) (fs : List Assignment),
      ((PartedObject.new typeName).assign fs).view.Recalls fs ∧
      ((PartedObject.new typeName).assign fs).size = (fs.map (·.1)).toFinset.card ∧
      ((PartedObject.new typeName).assign fs).view =
        ((TaggedObject.new typeName).assign fs).view ∧
      ((PartedObject.new typeName).assign fs).size =
        ((TaggedObject.new typeName).assign fs).size) ∧
    ∀ (decoder : CellDecoder) (row : List ResultCell),
      ((∃ o, rowObject decoder row = .ok o) ↔ ∀ c ∈ row, ∃ v, c.value decoder = .ok v) ∧
      ∀ o, rowObject decoder row = .ok o →
        ((PartedObject.new "row").assign (row.filterMap (ResultCell.assignment? decoder))).view =
          o.view ∧
        InFirstOrder (row.map (·.name)) o.names ∧
        ∀ before c after, row = before ++ c :: after → (∀ later ∈ after, later.name ≠ c.name) →
          o.tag? c.name = some c.type.tag ∧ o.value? c.name = (c.value decoder).toOption := by
  constructor
  · intro typeName fs
    have hmatches := (PartedObject.matches_new typeName).assign fs
    refine ⟨?_, ?_, hmatches.view_eq, hmatches.size_eq⟩
    · rw [hmatches.view_eq]
      exact TaggedObject.recalls_assign typeName fs
    · rw [hmatches.size_eq]
      exact TaggedObject.size_assign_new typeName fs
  · intro decoder row
    refine ⟨exists_rowObject_iff, fun o ho => ⟨?_, order_rowObject ho, ?_⟩⟩
    · rw [(rowObject_eq_ok_iff.1 ho).2]
      exact ((PartedObject.matches_new "row").assign _).view_eq
    · rintro before c after rfl hlater
      exact last_rowObject ho hlater

/-- The first field is set again, to another type. -/
def retyped : List Assignment :=
  [("a", ⟨"string", .string "x"⟩), ("b", ⟨"long", .long 1⟩), ("a", ⟨"int", .int 2⟩)]

/-- The last column has the name of the first, and the second is empty. -/
def overlaid : List ResultCell :=
  [⟨"x", some .integer, .integer 1⟩, ⟨"y", none, .null⟩, ⟨"x", none, .text "a"⟩]

theorem recalls_assigned_overlaid :
    (((PartedObject.new "T").assign retyped).size = 2 ∧
      ((PartedObject.new "T").assign retyped).view.tag? "a" = some "int" ∧
      ((PartedObject.new "T").assign retyped).view.value? "a" = some (.int 2)) ∧
    ∃ o, rowObject .byKind overlaid = .ok o ∧ "y" ∈ o.names ∧
      o.tag? "x" = some "TEXT" ∧ o.value? "x" = some (.string "a") := by
  obtain ⟨hassigned, hrows⟩ := recalls_assigned
  constructor
  · obtain ⟨hrecalls, hsize, -, -⟩ := hassigned "T" retyped
    have hnames : (retyped.map (·.1)).toFinset.card = 2 := by decide
    exact ⟨hsize.trans hnames,
      hrecalls.last (retyped.take 2) "a" ⟨"int", .int 2⟩ [] rfl (List.forall_mem_nil _)⟩
  · obtain ⟨hexists, hkept⟩ := hrows .byKind overlaid
    have hcells : ∀ c ∈ overlaid, ∃ v, c.value .byKind = .ok v := by
      simp only [overlaid, List.forall_mem_cons]
      exact ⟨⟨_, rfl⟩, ⟨_, rfl⟩, ⟨_, rfl⟩, nofun⟩
    obtain ⟨o, ho⟩ := hexists.2 hcells
    obtain ⟨-, horder, hlast⟩ := hkept o ho
    refine ⟨o, ho, horder.mem_iff.2 (by simp [overlaid]), ?_⟩
    exact hlast (overlaid.take 2) ⟨"x", none, .text "a"⟩ [] rfl (List.forall_mem_nil _)

end KeyedRecords
