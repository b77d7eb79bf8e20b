import KeyedRecords.Proofs.Service.RowRequests

/-!
A table lookup in use: it is enabled, disabled and asked, one after another, and between these the
clock may show any other moment. The database may be another one at every step.
-/

namespace KeyedRecords

/-- A request to a table lookup, or a new reading of the clock. -/
inductive RowStep (σ : Type) where
  | enable (db : Database σ) (settings : RowSettings)
  | disable
  | clock (now : Moment)
  | lookup (db : Database σ) (coordinates : Coordinates)

structure RowSession where
  service : Lifecycle RowResources
  now : Moment

namespace RowSession

variable {σ : Type}

/-- A new service at a moment. -/
def new (now : Moment) : RowSession := ⟨.new, now⟩

/-- What a lookup is answered. -/
def answer (s : RowSession) (db : Database σ) (coordinates : Coordinates) : RowLookup.Answer :=
  (RowLookup.lookup db coordinates s.now s.service).2.1

def step (s : RowSession) : RowStep σ → RowSession
  | .enable db settings => { s with service := (RowLookup.enable db settings s.service).2 }
  | .disable => { s with service := s.service.disable }
  | .clock now => { s with now }
  | .lookup db coordinates =>
    { s with service := (RowLookup.lookup db coordinates s.now s.service).2.2 }

def run (s : RowSession) (steps : List (RowStep σ)) : RowSession := steps.foldl step s

theorem run_cons (s : RowSession) (x : RowStep σ) (steps : List (RowStep σ)) :
    s.run (x :: steps) = (s.step x).run steps := rfl

theorem run_append (s : RowSession) (steps steps' : List (RowStep σ)) :
    s.run (steps ++ steps') = (s.run steps).run steps' := List.foldl_append

variable {s : RowSession} {x : RowStep σ} {steps : List (RowStep σ)} {db : Database σ}
  {settings : RowSettings} {coordinates : Coordinates} {r : RowResources}

/-! ## What an enabled service holds after a step -/

theorem read_new {now : Moment} : (new now).service.read ≠ .ok r := nofun

theorem read_enable : (s.step (.enable db settings)).service.read = .ok r ↔
    settings.check = .ok () ∧ db.ping = .ok () ∧
      r = RowLookup.resources settings s.service.resources := by
  rcases RowLookup.enable_cases db settings s.service with ⟨hc, hp, h⟩ | ⟨hn, h⟩
  · simp [step, h, hc, hp, Lifecycle.read, eq_comm]
  · simp only [step, h, Lifecycle.read]
    exact ⟨nofun, fun ⟨hc, hp, _⟩ => (hn.elim (· hc) (· hp)).elim⟩

theorem read_disable : s.service.disable.read ≠ .ok r := by
  simp [Lifecycle.read_eq_ok_iff]

theorem read_lookup : (s.step (.lookup db coordinates)).service.read = .ok r ↔
    ∃ old, s.service.read = .ok old ∧
      r = { old with cache := (RowLookup.serve db coordinates s.now old).2.2 } := by
  simp only [step, RowLookup.lookup]
  cases h : s.service.read with
  | error e => simp [h]
  | ok old =>
    have hold := Lifecycle.read_eq_ok_iff.1 h
    simp [Lifecycle.read, Lifecycle.update, hold, eq_comm]

/-! ## The statement and the cache belong to the settings -/

def Fits (s : RowSession) : Prop := ∀ r, s.service.read = .ok r → r.Fits

theorem fits_new (now : Moment) : (new now).Fits := fun _ h => (read_new h).elim

theorem Fits.step (h : s.Fits) : (s.step x).Fits := by
  intro r hr
  cases x with
  | enable db settings =>
    obtain ⟨-, -, rfl⟩ := read_enable.1 hr
    exact RowLookup.fits_resources settings s.service.resources
  | disable => exact (read_disable hr).elim
  | clock now => exact h r hr
  | lookup db coordinates =>
    obtain ⟨old, hold, rfl⟩ := read_lookup.1 hr
    obtain ⟨hstatement, hcapacity, httl⟩ := h old hold
    exact ⟨hstatement, by simpa using hcapacity, by simpa using httl⟩

theorem Fits.run (h : s.Fits) : (s.run steps).Fits := by
  induction steps generalizing s with
  | nil => exact h
  | cons x rest ih => exact ih h.step

end RowSession
end KeyedRecords
