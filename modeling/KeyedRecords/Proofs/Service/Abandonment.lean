import KeyedRecords.Proofs.Service.Sharing

/-!
Tasks that give up while they enable or disable a service. One that still waits has done nothing, so
it is as if it had not come. One that has begun has taken the resources away: they are gone, and the
service stays in the phase of the transition although nobody is at it any more. Disabling does not
help, since there is nothing to release, and readers are turned away with that phase. Only the next
task that enables the service gets it out of there (`left_of_abandon`).
-/

namespace KeyedRecords

variable {R : Type}

/-- A reader does not wait for other readers, and leaves the lifecycle as it is. -/
theorem Guarded.read?_cases (g : Guarded R) :
    (g.hold = .exclusive ∧ g.read? = none) ∨
    (g.hold ≠ .exclusive ∧ ∃ hold, hold ≠ .exclusive ∧
      g.read? = some (g.lifecycle.read, { g with hold })) := by
  obtain ⟨l, hold⟩ := g
  cases hold with
  | exclusive => exact .inl ⟨rfl, rfl⟩
  | readers n =>
    refine .inr ⟨by simp, ?_⟩
    cases hr : l.read with
    | ok r => exact ⟨.readers (n + 1), by simp, by simp only [read?, hr]⟩
    | error e => exact ⟨.readers n, by simp, by simp only [read?, hr]⟩

theorem Guarded.lifecycle_release (g : Guarded R) : g.release.lifecycle = g.lifecycle := by
  unfold release
  split <;> rfl

theorem Guarded.hold_release_iff (g : Guarded R) :
    g.release.hold = .exclusive ↔ g.hold = .exclusive := by
  unfold release
  split <;> simp [*]

/-- What a task does next, or that it does nothing more. -/
inductive Act (R : Type) where
  | move (m : Move R)
  | abandon

namespace Sharing

/-- A task gives up the transition that it has begun, and lets go of the lifecycle. -/
def abandon (s : Sharing R) (task : Nat) : Sharing R :=
  if s.writer.any (·.1 = task) then
    { s with guarded := s.guarded.abandon, writer := none }
  else s

def act (s : Sharing R) (task : Nat) : Act R → Sharing R
  | .move m => s.step task m
  | .abandon => s.abandon task

def play (s : Sharing R) (acts : List (Nat × Act R)) : Sharing R :=
  acts.foldl (fun s a => s.act a.1 a.2) s

variable {s s' : Sharing R} {task : Nat} {c : Change}

theorem abandon_of_writer (hw : s.writer = some (task, c)) :
    s.abandon task = { s with guarded := s.guarded.abandon, writer := none } := by
  simp [abandon, hw]

theorem abandon_of_idle (hw : s.writer = none) : s.abandon task = s := by
  simp [abandon, hw]

/-! ## What holds with tasks that give up -/

/-- While nobody changes the service, nobody keeps readers waiting, and it is enabled exactly if it
has resources. Who changes it has taken them away. -/
structure Orderly (s : Sharing R) : Prop where
  idle : s.writer = none → s.guarded.hold ≠ .exclusive ∧
    (s.guarded.phase = .enabled ↔ s.guarded.lifecycle.resources.isSome)
  changing : ∀ task c, s.writer = some (task, c) → s.guarded = ⟨⟨none, c.phase⟩, .exclusive⟩

namespace Orderly

theorem new : (new : Sharing R).Orderly where
  idle _ := by simp [Sharing.new, Guarded.new, Guarded.phase, Lifecycle.new]
  changing _ _ hw := by cases hw

/-- Readers come and go while nobody has the lifecycle alone. -/
theorem share (h : s.Orderly) (hw : s.writer = none) (hw' : s'.writer = none)
    (hl : s'.guarded.lifecycle = s.guarded.lifecycle) (hhold : s'.guarded.hold ≠ .exclusive) :
    s'.Orderly where
  idle _ := by
    rw [Guarded.phase, hl]
    exact ⟨hhold, (h.idle hw).2⟩
  changing _ _ hw'' := by cases hw'.symm.trans hw''

theorem take (hw : s.writer = some (task, c)) (hg : s.guarded = ⟨⟨none, c.phase⟩, .exclusive⟩) :
    s.Orderly where
  idle hw' := by cases hw'.symm.trans hw
  changing task' c' hw' := by
    cases hw'.symm.trans hw
    exact hg

theorem settle (resources : Option R) (hw : s.writer = none)
    (hg : s.guarded = ⟨.settled resources, .readers 0⟩) : s.Orderly where
  idle _ := by
    rw [Guarded.phase, hg]
    cases resources <;> simp [Lifecycle.settled]
  changing _ _ hw' := by cases hw.symm.trans hw'

theorem writer_eq_none (h : s.Orderly) (hhold : s.guarded.hold ≠ .exclusive) : s.writer = none := by
  cases hw : s.writer with
  | none => rfl
  | some w =>
    rw [h.changing w.1 w.2 hw] at hhold
    exact (hhold rfl).elim

theorem read (h : s.Orderly) : (s.read task).Orderly := by
  rcases s.guarded.read?_cases with ⟨-, hr⟩ | ⟨hfree, hold, hhold, hr⟩
  · have he : s.read task = s := by simp only [Sharing.read, hr]
    rwa [he]
  · have hw := h.writer_eq_none hfree
    cases hl : s.guarded.lifecycle.read with
    | ok r =>
      simp only [Sharing.read, hr, hl]
      exact h.share hw hw rfl hhold
    | error e =>
      simp only [Sharing.read, hr, hl]
      exact h.share hw hw rfl hhold

theorem release (h : s.Orderly) : (s.release task).Orderly := by
  unfold Sharing.release
  split
  · cases hw : s.writer with
    | none =>
      refine h.share hw rfl s.guarded.lifecycle_release ?_
      exact (h.idle hw).1 ∘ s.guarded.hold_release_iff.1
    | some w =>
      have hg := h.changing w.1 w.2 hw
      exact take rfl (congrArg Guarded.release hg)
  · exact h

theorem beginEnable (h : s.Orderly) : (s.beginEnable task).Orderly := by
  by_cases hhold : s.guarded.hold = .readers 0
  · simp only [Sharing.beginEnable, Guarded.beginEnable?, hhold]
    exact take rfl rfl
  · rwa [beginEnable_of_held hhold]

theorem beginDisable (h : s.Orderly) : (s.beginDisable task).Orderly := by
  by_cases hhold : s.guarded.hold = .readers 0
  · cases hr : s.guarded.lifecycle.resources with
    | none =>
      have he : s.beginDisable task = s := by
        simp [Sharing.beginDisable, Guarded.beginDisable?, hhold, Lifecycle.beginDisable, hr]
      rwa [he]
    | some r =>
      simp only [Sharing.beginDisable, Guarded.beginDisable?, hhold, Lifecycle.beginDisable, hr,
        Option.map_some]
      exact take rfl rfl
  · rwa [beginDisable_of_held hhold]

theorem endEnable (h : s.Orderly) {built : Except LookupError R} :
    (s.endEnable task built).Orderly := by
  by_cases hw : s.writer = some (task, .enabling)
  · rw [Sharing.endEnable, if_pos hw, h.changing _ _ hw]
    refine settle (Transition.ofBuilt built).left rfl ?_
    cases built <;> rfl
  · rwa [Sharing.endEnable, if_neg hw]

theorem endDisable (h : s.Orderly) : (s.endDisable task).Orderly := by
  by_cases hw : s.writer = some (task, .disabling)
  · rw [Sharing.endDisable, if_pos hw, h.changing _ _ hw]
    exact settle none rfl rfl
  · rwa [Sharing.endDisable, if_neg hw]

theorem abandon (h : s.Orderly) : (s.abandon task).Orderly := by
  by_cases hw : s.writer.any (·.1 = task)
  · obtain ⟨⟨task', c⟩, hw', -⟩ := (Option.any_eq_true ..).1 hw
    rw [Sharing.abandon, if_pos hw, h.changing _ _ hw']
    refine ⟨fun _ => ?_, fun _ _ hw => by cases hw⟩
    cases c <;> simp [Guarded.abandon, Guarded.phase, Change.phase]
  · rwa [Sharing.abandon, if_neg hw]

theorem act (h : s.Orderly) (a : Act R) : (s.act task a).Orderly := by
  cases a with
  | move m =>
    cases m with
    | read => exact h.read
    | release => exact h.release
    | beginEnable => exact h.beginEnable
    | endEnable => exact h.endEnable
    | beginDisable => exact h.beginDisable
    | endDisable => exact h.endDisable
  | abandon => exact h.abandon

theorem play (h : s.Orderly) (acts : List (Nat × Act R)) : (s.play acts).Orderly := by
  induction acts generalizing s with
  | nil => exact h
  | cons a rest ih => exact ih (h.act a.2)

end Orderly

/-! ## After a transition that was given up -/

/-- Nobody is at the transition whose phase the service shows. -/
structure Stranded (c : Change) (s : Sharing R) : Prop where
  idle : s.writer = none
  guarded_eq : s.guarded = ⟨⟨none, c.phase⟩, .readers 0⟩

namespace Stranded

theorem of_writer (h : s.Orderly) (hw : s.writer = some (task, c)) :
    (s.abandon task).Stranded c := by
  rw [abandon_of_writer hw, h.changing _ _ hw]
  exact ⟨rfl, rfl⟩

theorem read?_eq (h : s.Stranded c) :
    s.guarded.read? = some (.error (.notReady c.phase), s.guarded) := by
  rw [h.guarded_eq]
  rfl

/-- Only to enable the service again leads anywhere. -/
theorem act (h : s.Stranded c) {a : Act R} (ha : a ≠ .move .beginEnable) :
    (s.act task a).Stranded c := by
  obtain ⟨hw, hg⟩ := h
  cases a with
  | abandon =>
    rw [Sharing.act, abandon_of_idle hw]
    exact ⟨hw, hg⟩
  | move m =>
    cases m with
    | beginEnable => exact (ha rfl).elim
    | read =>
      simp only [Sharing.act, Sharing.step, Sharing.read, read?_eq ⟨hw, hg⟩]
      exact ⟨hw, hg⟩
    | release =>
      simp only [Sharing.act, Sharing.step, Sharing.release]
      split
      · exact ⟨hw, by rw [hg]; rfl⟩
      · exact ⟨hw, hg⟩
    | endEnable built =>
      simp only [Sharing.act, Sharing.step, Sharing.endEnable, hw]
      exact ⟨hw, hg⟩
    | beginDisable =>
      simp only [Sharing.act, Sharing.step, Sharing.beginDisable, Guarded.beginDisable?,
        Lifecycle.beginDisable, hg]
      exact ⟨hw, rfl⟩
    | endDisable =>
      simp only [Sharing.act, Sharing.step, Sharing.endDisable, hw]
      exact ⟨hw, hg⟩

theorem play (h : s.Stranded c) {acts : List (Nat × Act R)}
    (hacts : ∀ a ∈ acts, a.2 ≠ .move .beginEnable) : (s.play acts).Stranded c := by
  induction acts generalizing s with
  | nil => exact h
  | cons a rest ih =>
    obtain ⟨ha, hrest⟩ := List.forall_mem_cons.1 hacts
    exact ih (h.act ha) hrest

theorem enable (h : s.Stranded c) (task : Nat) (built : Except LookupError R) :
    ((s.step task .beginEnable).step task (.endEnable built)).guarded =
      ⟨.settled (Transition.ofBuilt built).left, .readers 0⟩ := by
  have hbegun : s.step task .beginEnable =
      { s with
        guarded := ⟨⟨none, .enabling⟩, .exclusive⟩
        writer := some (task, .enabling) } := by
    simp [step, beginEnable, Guarded.beginEnable?, Lifecycle.beginEnable, h.guarded_eq]
  rw [hbegun]
  cases built <;> simp [step, endEnable, Guarded.endEnable, Lifecycle.endEnable,
    Transition.ofBuilt, Transition.left, Lifecycle.settled]

end Stranded

/-- In every interleaving with tasks that give up: while nobody changes the service it is enabled
exactly if it has resources. A task that gives up while it changes the service leaves it without
resources and in the phase of the change. So it stays, and readers are turned away with that phase,
whatever is done, until a task enables the service; this then leaves what enabling always leaves. -/
theorem left_of_abandon (acts : List (Nat × Act R)) :
    let s := new.play acts
    (s.writer = none → (s.guarded.phase = .enabled ↔ s.guarded.lifecycle.resources.isSome)) ∧
    ∀ task c, s.writer = some (task, c) → ∀ rest : List (Nat × Act R),
      (∀ a ∈ rest, a.2 ≠ .move .beginEnable) →
      let s' := (s.act task .abandon).play rest
      s'.writer = none ∧ s'.guarded = ⟨⟨none, c.phase⟩, .readers 0⟩ ∧
        s'.guarded.read? = some (.error (.notReady c.phase), s'.guarded) ∧
        ∀ task' built, ((s'.step task' .beginEnable).step task' (.endEnable built)).guarded =
          ⟨.settled (Transition.ofBuilt built).left, .readers 0⟩ := by
  intro s
  have h : s.Orderly := Orderly.new.play acts
  refine ⟨fun hw => (h.idle hw).2, fun task c hw rest hrest => ?_⟩
  have hleft : ((s.act task .abandon).play rest).Stranded c :=
    (Stranded.of_writer h hw).play hrest
  exact ⟨hleft.idle, hleft.guarded_eq, hleft.read?_eq, hleft.enable⟩

/-- A task gives up while it disables the service. To disable it once more is of no use, but to
enable it once more is. -/
theorem left_of_abandon_disabling :
    let acts : List (Nat × Act Nat) :=
      [(1, .move .beginEnable), (1, .move (.endEnable (.ok 4))), (2, .move .beginDisable)]
    let rest : List (Nat × Act Nat) := [(3, .move .beginDisable), (3, .move .endDisable)]
    let s : Sharing Nat := ((new.play acts).act 2 .abandon).play rest
    (new.play acts).writer = some (2, .disabling) ∧ (∀ a ∈ rest, a.2 ≠ .move .beginEnable) ∧
      s.writer = none ∧ s.guarded.phase = .disabling ∧
      s.guarded.read? = some (.error (.notReady .disabling), s.guarded) ∧
      ((s.step 1 .beginEnable).step 1 (.endEnable (.ok 5))).guarded =
        ⟨.settled (some 5), .readers 0⟩ := by
  intro acts rest s
  have hw : (new.play acts).writer = some (2, .disabling) := rfl
  have hrest : ∀ a ∈ rest, a.2 ≠ .move .beginEnable := by simp [rest]
  obtain ⟨-, hleft⟩ := left_of_abandon acts
  obtain ⟨hidle, hg, hread, henable⟩ := hleft 2 .disabling hw rest hrest
  exact ⟨hw, hrest, hidle, congrArg Guarded.phase hg, hread, henable 1 (.ok 5)⟩

/-- Giving up does not lead back to a service that is disabled, or tells readers that it is. -/
theorem not_settled_of_abandon :
    ¬∀ (acts : List (Nat × Act Unit)) (task : Nat) (c : Change),
      (new.play acts).writer = some (task, c) →
      let s := (new.play acts).act task .abandon
      s.guarded.phase = (if s.guarded.lifecycle.resources.isSome then .enabled else .disabled) ∧
        ∀ e g, s.guarded.read? = some (.error e, g) → e = .notReady .disabled := by
  intro h
  obtain ⟨hphase, -⟩ := h [(1, .move .beginEnable)] 1 .enabling rfl
  cases hphase

end Sharing
end KeyedRecords
