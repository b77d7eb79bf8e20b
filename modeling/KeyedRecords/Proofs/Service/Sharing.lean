import KeyedRecords.Service.Guarded

/-!
Tasks that share one lifecycle, each of them enabling, disabling or reading it. Their moves are
interleaved in any order; a task that has to wait makes its move again later. Who has begun to
enable or to disable ends it before anybody else has the lifecycle.
-/

namespace KeyedRecords

namespace Lifecycle

variable {R : Type}

/-- The lifecycle outside of every transition. -/
def settled : Option R → Lifecycle R
  | some r => ⟨some r, .enabled⟩
  | none => ⟨none, .disabled⟩

@[simp] theorem resources_settled (c : Option R) : (settled c).resources = c := by cases c <;> rfl

theorem phase_settled (c : Option R) :
    (settled c).phase = if c.isSome then .enabled else .disabled := by
  cases c <;> rfl

theorem read_settled_some (r : R) : (settled (some r)).read = .ok r := rfl

theorem read_settled_none : (settled (none : Option R)).read = .error (.notReady .disabled) := rfl

end Lifecycle

/-- A transition under way, which holds the lifecycle alone. -/
inductive Change where
  | enabling
  | disabling
  deriving DecidableEq

def Change.phase : Change → Phase
  | enabling => .enabling
  | disabling => .disabling

/-- A transition that is over. Disabling a service without resources is none. -/
inductive Transition (R : Type) where
  | enabled (r : R)
  | failed
  | disabled
  deriving DecidableEq

namespace Transition

variable {R : Type}

def ofBuilt : Except LookupError R → Transition R
  | .ok r => enabled r
  | .error _ => failed

def left : Transition R → Option R
  | enabled r => some r
  | failed | disabled => none

end Transition

/-- What a task does between two points at which it may have to wait. -/
inductive Move (R : Type) where
  | read
  | release
  | beginEnable
  | endEnable (built : Except LookupError R)
  | beginDisable
  | endDisable

/-- A lifecycle and the tasks that hold it. -/
structure Sharing (R : Type) where
  guarded : Guarded R
  /-- The tasks that read, with the resources they were given. -/
  readers : List (Nat × R)
  /-- The task that enables or disables. -/
  writer : Option (Nat × Change)
  /-- The transitions that are over, the last one first. -/
  history : List (Transition R)
  deriving DecidableEq

namespace Sharing

variable {R : Type}

def new : Sharing R := ⟨.new, [], none, []⟩

/-- The resources that the last transition left. -/
def current (s : Sharing R) : Option R := s.history.head?.bind Transition.left

def read (s : Sharing R) (task : Nat) : Sharing R :=
  match s.guarded.read? with
  | some (.ok r, g) => { s with guarded := g, readers := (task, r) :: s.readers }
  | some (.error _, g) => { s with guarded := g }
  | none => s

def release (s : Sharing R) (task : Nat) : Sharing R :=
  if s.readers.any (·.1 == task) then
    { s with guarded := s.guarded.release, readers := s.readers.eraseP (·.1 == task) }
  else s

def beginEnable (s : Sharing R) (task : Nat) : Sharing R :=
  match s.guarded.beginEnable? with
  | some (_, g) => { s with guarded := g, writer := some (task, .enabling) }
  | none => s

def endEnable (s : Sharing R) (task : Nat) (built : Except LookupError R) : Sharing R :=
  if s.writer = some (task, .enabling) then
    { s with
      guarded := s.guarded.endEnable built
      writer := none
      history := .ofBuilt built :: s.history }
  else s

def beginDisable (s : Sharing R) (task : Nat) : Sharing R :=
  match s.guarded.beginDisable? with
  | some (some _, g) => { s with guarded := g, writer := some (task, .disabling) }
  | some (none, g) => { s with guarded := g }
  | none => s

def endDisable (s : Sharing R) (task : Nat) : Sharing R :=
  if s.writer = some (task, .disabling) then
    { s with
      guarded := s.guarded.endDisable
      writer := none
      history := .disabled :: s.history }
  else s

/-- One task makes one move; what it cannot do now changes nothing. -/
def step (s : Sharing R) (task : Nat) : Move R → Sharing R
  | .read => s.read task
  | .release => s.release task
  | .beginEnable => s.beginEnable task
  | .endEnable built => s.endEnable task built
  | .beginDisable => s.beginDisable task
  | .endDisable => s.endDisable task

def run (s : Sharing R) (moves : List (Nat × Move R)) : Sharing R :=
  moves.foldl (fun s m => s.step m.1 m.2) s

/-! ## The lifecycle by who holds it -/

/-- The lifecycle is settled on the resources of the last transition, which all readers have, unless
one task alone has taken them away. -/
structure Coherent (s : Sharing R) : Prop where
  idle : s.writer = none → s.guarded = ⟨.settled s.current, .readers s.readers.length⟩
  changing : ∀ task c, s.writer = some (task, c) →
    s.guarded = ⟨⟨none, c.phase⟩, .exclusive⟩ ∧ s.readers = []
  given : ∀ p ∈ s.readers, s.current = some p.2

variable {s : Sharing R}

theorem coherent_new : (new : Sharing R).Coherent where
  idle _ := rfl
  changing := nofun
  given := nofun

theorem current_eq_some_iff {r : R} :
    s.current = some r ↔ s.history.head? = some (.enabled r) := by
  unfold current
  cases s.history.head? with
  | none => simp
  | some t => cases t <;> simp [Transition.left]

theorem beginEnable_of_held {task : Nat} (hhold : s.guarded.hold ≠ .readers 0) :
    s.beginEnable task = s := by
  unfold beginEnable Guarded.beginEnable?
  split <;> simp_all

theorem beginDisable_of_held {task : Nat} (hhold : s.guarded.hold ≠ .readers 0) :
    s.beginDisable task = s := by
  unfold beginDisable Guarded.beginDisable?
  split <;> simp_all

namespace Coherent

theorem writer_of_reader (h : s.Coherent) (hr : s.readers ≠ []) : s.writer = none := by
  cases hw : s.writer with
  | none => rfl
  | some w => exact (hr (h.changing w.1 w.2 hw).2).elim

theorem exclusive_iff (h : s.Coherent) : s.guarded.hold = .exclusive ↔ s.writer.isSome := by
  cases hw : s.writer with
  | none => simp [h.idle hw]
  | some w => simp [(h.changing w.1 w.2 hw).1]

/-- Everything that asking for the resources can lead to. -/
theorem read_cases (h : s.Coherent) :
    (s.writer.isSome ∧ s.guarded.read? = none) ∨
    (∃ r, s.writer = none ∧ s.current = some r ∧
      s.guarded.read? = some (.ok r, ⟨.settled (some r), .readers (s.readers.length + 1)⟩)) ∨
    (s.writer = none ∧ s.current = none ∧
      s.guarded.read? = some (.error (.notReady .disabled), s.guarded)) := by
  cases hw : s.writer with
  | some w => exact .inl ⟨rfl, by simp [Guarded.read?, (h.changing w.1 w.2 hw).1]⟩
  | none =>
    have hg := h.idle hw
    cases hc : s.current with
    | some r =>
      refine .inr (.inl ⟨r, rfl, rfl, ?_⟩)
      simp [Guarded.read?, hg, hc, Lifecycle.read_settled_some]
    | none =>
      refine .inr (.inr ⟨rfl, rfl, ?_⟩)
      simp [Guarded.read?, hg, hc, Lifecycle.read_settled_none]

/-- Whoever wants the lifecycle alone waits for the readers and for any other such task. -/
theorem free_of_begin (h : s.Coherent) (hhold : s.guarded.hold = .readers 0) :
    s.readers = [] ∧ s.guarded = ⟨.settled s.current, .readers 0⟩ := by
  have hw : s.writer = none := by
    have hne : ¬s.writer.isSome := fun hw => by simp [h.exclusive_iff.2 hw] at hhold
    simpa using hne
  have hg := h.idle hw
  have hlen : s.readers.length = 0 := by simpa [hg] using hhold
  exact ⟨List.length_eq_zero_iff.1 hlen, by rw [hg, hlen]⟩

variable {task : Nat}

/-- Readers come and go while nobody has the lifecycle alone. -/
theorem share (hw : s.writer = none) {readers : List (Nat × R)}
    (hgiven : ∀ p ∈ readers, s.current = some p.2) :
    { s with guarded := ⟨.settled s.current, .readers readers.length⟩, readers }.Coherent where
  idle _ := rfl
  changing task' c hw' := by cases hw.symm.trans hw'
  given := hgiven

theorem read (h : s.Coherent) : (s.read task).Coherent := by
  obtain ⟨-, hr⟩ | ⟨r, hw, hc, hr⟩ | ⟨-, -, hr⟩ := h.read_cases
  · have he : s.read task = s := by simp only [Sharing.read, hr]
    rwa [he]
  · have he : s.read task =
        { s with
          guarded := ⟨.settled s.current, .readers ((task, r) :: s.readers).length⟩
          readers := (task, r) :: s.readers } := by
      simp only [Sharing.read, hr, hc, List.length_cons]
    rw [he]
    refine share hw fun p hp => ?_
    obtain rfl | hp := List.mem_cons.1 hp
    · exact hc
    · exact h.given p hp
  · have he : s.read task = s := by simp only [Sharing.read, hr]
    rwa [he]

theorem release (h : s.Coherent) : (s.release task).Coherent := by
  by_cases hany : s.readers.any (·.1 == task)
  · have hw : s.writer = none := h.writer_of_reader fun hnil => by simp [hnil] at hany
    obtain ⟨p, hp, hpt⟩ := List.any_eq_true.1 hany
    have hlen : (s.readers.eraseP (·.1 == task)).length = s.readers.length - 1 :=
      List.length_eraseP_of_mem hp hpt
    have he : s.release task =
        { s with
          guarded := ⟨.settled s.current, .readers (s.readers.eraseP (·.1 == task)).length⟩
          readers := s.readers.eraseP (·.1 == task) } := by
      rw [Sharing.release, if_pos hany, h.idle hw, hlen]
      rfl
    rw [he]
    exact share hw fun q hq => h.given q (List.mem_of_mem_eraseP hq)
  · rwa [Sharing.release, if_neg hany]

/-- A task takes the lifecycle for itself. -/
theorem take (h : s.Coherent) (hreaders : s.readers = []) (c : Change) :
    { s with
      guarded := ⟨⟨none, c.phase⟩, .exclusive⟩
      writer := some (task, c) }.Coherent where
  idle hw := by cases hw
  changing task' c' hw := by
    cases hw
    exact ⟨rfl, hreaders⟩
  given := h.given

theorem settle (hreaders : s.readers = []) (t : Transition R) :
    { s with
      guarded := ⟨.settled t.left, .readers 0⟩
      writer := none
      history := t :: s.history }.Coherent where
  idle _ := by
    rw [hreaders]
    rfl
  changing task' c hw := by cases hw
  given p hp := by simp [hreaders] at hp

theorem beginEnable (h : s.Coherent) : (s.beginEnable task).Coherent := by
  by_cases hhold : s.guarded.hold = .readers 0
  · obtain ⟨hreaders, hg⟩ := h.free_of_begin hhold
    have he : s.beginEnable task =
        { s with
          guarded := ⟨⟨none, Change.enabling.phase⟩, .exclusive⟩
          writer := some (task, .enabling) } := by
      simp [Sharing.beginEnable, Guarded.beginEnable?, hg, Lifecycle.beginEnable, Change.phase]
    rw [he]
    exact h.take hreaders .enabling
  · rwa [beginEnable_of_held hhold]

theorem endEnable (h : s.Coherent) {built : Except LookupError R} :
    (s.endEnable task built).Coherent := by
  by_cases hw : s.writer = some (task, .enabling)
  · obtain ⟨hg, hreaders⟩ := h.changing _ _ hw
    have he : s.endEnable task built =
        { s with
          guarded := ⟨.settled (Transition.ofBuilt built).left, .readers 0⟩
          writer := none
          history := .ofBuilt built :: s.history } := by
      rw [Sharing.endEnable, if_pos hw, hg]
      cases built <;> rfl
    rw [he]
    exact settle hreaders _
  · rwa [Sharing.endEnable, if_neg hw]

theorem beginDisable (h : s.Coherent) : (s.beginDisable task).Coherent := by
  by_cases hhold : s.guarded.hold = .readers 0
  · obtain ⟨hreaders, hg⟩ := h.free_of_begin hhold
    cases hc : s.current with
    | none =>
      have hres : s.guarded.lifecycle.resources = none := by simp [hg, hc]
      have he : s.beginDisable task = s := by
        simp [Sharing.beginDisable, Guarded.beginDisable?, hhold, hres, Lifecycle.beginDisable]
      rwa [he]
    | some r =>
      have he : s.beginDisable task =
          { s with
            guarded := ⟨⟨none, Change.disabling.phase⟩, .exclusive⟩
            writer := some (task, .disabling) } := by
        simp [Sharing.beginDisable, Guarded.beginDisable?, hg, hc, Lifecycle.beginDisable,
          Change.phase]
      rw [he]
      exact h.take hreaders .disabling
  · rwa [beginDisable_of_held hhold]

theorem endDisable (h : s.Coherent) : (s.endDisable task).Coherent := by
  by_cases hw : s.writer = some (task, .disabling)
  · obtain ⟨hg, hreaders⟩ := h.changing _ _ hw
    have he : s.endDisable task =
        { s with
          guarded := ⟨.settled (Transition.left (.disabled : Transition R)), .readers 0⟩
          writer := none
          history := .disabled :: s.history } := by
      rw [Sharing.endDisable, if_pos hw, hg]
      rfl
    rw [he]
    exact settle hreaders _
  · rwa [Sharing.endDisable, if_neg hw]

theorem step (h : s.Coherent) (m : Move R) : (s.step task m).Coherent := by
  cases m with
  | read => exact h.read
  | release => exact h.release
  | beginEnable => exact h.beginEnable
  | endEnable => exact h.endEnable
  | beginDisable => exact h.beginDisable
  | endDisable => exact h.endDisable

theorem run (h : s.Coherent) (moves : List (Nat × Move R)) : (s.run moves).Coherent := by
  induction moves generalizing s with
  | nil => exact h
  | cons m rest ih => exact ih (h.step m.2)

/-! ## What readers rely on -/

theorem lifecycle_of_reader (h : s.Coherent) {p : Nat × R} (hp : p ∈ s.readers) :
    s.guarded.phase = .enabled ∧ s.guarded.lifecycle.resources = some p.2 := by
  have hw := h.writer_of_reader (List.ne_nil_of_mem hp)
  have hc := h.given p hp
  simp [Guarded.phase, h.idle hw, hc, Lifecycle.phase_settled]

theorem lifecycle_step_of_reader (h : s.Coherent) {p : Nat × R} (hp : p ∈ s.readers)
    (m : Move R) : (s.step task m).guarded.lifecycle = s.guarded.lifecycle := by
  have hne : s.readers ≠ [] := List.ne_nil_of_mem hp
  have hw := h.writer_of_reader hne
  have hhold : s.guarded.hold ≠ .readers 0 := by simpa [h.idle hw] using hne
  cases m with
  | read =>
    obtain ⟨hw', -⟩ | ⟨r, -, hc, hr⟩ | ⟨-, -, hr⟩ := h.read_cases
    · simp [hw] at hw'
    · simp only [Sharing.step, Sharing.read, hr]
      rw [h.idle hw, hc]
    · simp [Sharing.step, Sharing.read, hr]
  | release =>
    simp only [Sharing.step, Sharing.release]
    split
    · simp [Guarded.release, h.idle hw]
    · rfl
  | beginEnable => rw [Sharing.step, beginEnable_of_held hhold]
  | endEnable => simp [Sharing.step, Sharing.endEnable, hw]
  | beginDisable => rw [Sharing.step, beginDisable_of_held hhold]
  | endDisable => simp [Sharing.step, Sharing.endDisable, hw]

/-- A reader gets its answer as soon as nobody has the lifecycle alone. It is given the resources
that the last transition left, and else is told that the service is disabled. -/
theorem read_iff (h : s.Coherent) :
    (s.guarded.read? = none ↔ s.guarded.hold = .exclusive) ∧
    ∀ outcome g, s.guarded.read? = some (outcome, g) →
      (∀ e, outcome = .error e → e = .notReady .disabled) ∧
      ∀ r, outcome = .ok r ↔ s.history.head? = some (.enabled r) := by
  obtain ⟨hw, hr⟩ | ⟨r, hw, hc, hr⟩ | ⟨hw, hc, hr⟩ := h.read_cases
  all_goals simp only [h.exclusive_iff, hr, hw, ← current_eq_some_iff]
  · simp
  · simp [hc]
  · simp [hc]

end Coherent

/-- In every interleaving: while nobody has the lifecycle alone, the service is enabled if it has
resources and disabled if not; while a task reads, it stays enabled with the resources that the task
was given; a reader that is turned down is told that the service is disabled; and a reader is given
resources exactly when the last transition enabled the service, and then those. -/
theorem coherent_interleaved (moves : List (Nat × Move R)) :
    let s := new.run moves
    (s.guarded.hold ≠ .exclusive → s.guarded.phase =
      if s.guarded.lifecycle.resources.isSome then .enabled else .disabled) ∧
    (∀ p ∈ s.readers,
      s.guarded.phase = .enabled ∧ s.guarded.lifecycle.resources = some p.2 ∧
        ∀ task m, (s.step task m).guarded.lifecycle = s.guarded.lifecycle) ∧
    (s.guarded.read? = none ↔ s.guarded.hold = .exclusive) ∧
    ∀ outcome g, s.guarded.read? = some (outcome, g) →
      (∀ e, outcome = .error e → e = .notReady .disabled) ∧
      ∀ r, outcome = .ok r ↔ s.history.head? = some (.enabled r) := by
  intro s
  have h : s.Coherent := coherent_new.run moves
  refine ⟨fun hhold => ?_, fun p hp => ?_, h.read_iff⟩
  · have hw : s.writer = none := by simpa [h.exclusive_iff] using hhold
    simp [Guarded.phase, h.idle hw, Lifecycle.phase_settled]
  · obtain ⟨hphase, hresources⟩ := h.lifecycle_of_reader hp
    exact ⟨hphase, hresources, fun task m => h.lifecycle_step_of_reader hp m⟩

/-- A task that wants to disable the service waits for the one that reads. -/
example : ((new : Sharing Unit).run [(1, .beginEnable), (1, .endEnable (.ok ())), (2, .read),
    (3, .beginDisable)]).guarded = ⟨.settled (some ()), .readers 1⟩ := by
  rfl

end Sharing
end KeyedRecords
