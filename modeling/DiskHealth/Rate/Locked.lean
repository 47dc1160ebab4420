import DiskHealth.Files.Stored

/-!
A rate state held under the lock of its file, from the moment it is loaded until it is saved or
given up. So one cycle of load, observation and save never overwrites the counters of another.
-/

namespace DiskHealth

open Files (FileAccess StoreError)

/-- A rate state whose file is locked. -/
structure LockedRates where
  path : String
  /-- The state, as far as it was observed since. -/
  state : RateState

namespace LockedRates

variable {m : Type → Type} [Monad m] [FileAccess m]

/-- The file whose lock is held for the file of a state. -/
def lockPath (path : String) : String :=
  path ++ ".lock"

/-- Locks the file of a state and loads it. -/
def acquire (path : String) : m (Except StoreError LockedRates) := do
  match ← FileAccess.lock (lockPath path) with
  | .error cause => return .error (.access (lockPath path) cause)
  | .ok () => return (← RateState.load path).map (LockedRates.mk path)

/-- The locked state with one more observation, and the rate that it gives. -/
def observe (l : LockedRates) (key : String) (now : Float) (value : Int64) :
    Except RateError Float × LockedRates :=
  let (rate, state) := l.state.observe key now value
  (rate, { l with state })

/-- Saves the state, after which its file is free. -/
def commit (l : LockedRates) : m (Except StoreError Unit) :=
  l.state.save l.path

end LockedRates

end DiskHealth
