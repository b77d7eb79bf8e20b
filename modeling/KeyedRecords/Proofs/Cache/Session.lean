import KeyedRecords.Cache.Records

/-!
A record cache in use: requests come one after another, and between them the clock may show any
other moment, later or earlier.
-/

namespace KeyedRecords

/-- A request to a record cache, or a new reading of the clock. -/
inductive CacheStep where
  | get (k : CacheKey)
  | put (k : CacheKey) (r : Record)
  | remove (k : CacheKey)
  | clear
  | purge
  | clock (now : Moment)

structure CacheSession where
  cache : RecordCache
  now : Moment
  /-- Whether storing has ever broken off on an expiry past the last moment. -/
  broken : Bool

namespace CacheSession

/-- A new cache at a moment. -/
def new (settings : CacheSettings) (now : Moment) : CacheSession := ⟨.new settings, now, false⟩

/-- A cache on which storing broke off stays in use. -/
def step (s : CacheSession) : CacheStep → CacheSession
  | .get k => { s with cache := (s.cache.get s.now k).2 }
  | .put k r =>
    let stored := s.cache.put s.now k r
    { s with cache := stored.cache, broken := s.broken || stored.overflow }
  | .remove k => { s with cache := (s.cache.remove k).2 }
  | .clear => { s with cache := s.cache.clear.2 }
  | .purge => { s with cache := (s.cache.purge s.now).2 }
  | .clock now => { s with now }

def run (s : CacheSession) (steps : List CacheStep) : CacheSession := steps.foldl step s

variable {s : CacheSession} {x : CacheStep} {steps : List CacheStep}

theorem run_snoc : s.run (steps ++ [x]) = (s.run steps).step x := by simp [run]

theorem unbroken_of_step (h : (s.step x).broken = false) : s.broken = false := by
  cases x with
  | put k r => exact (Bool.or_eq_false_iff.1 h).1
  | _ => exact h

theorem unbroken_of_run (h : (s.run steps).broken = false) : s.broken = false := by
  induction steps generalizing s with
  | nil => exact h
  | cons x rest ih => exact unbroken_of_step (ih h)

end CacheSession

end KeyedRecords
