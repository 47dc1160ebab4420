import DiskHealth.SortedMap

/-!
Rates of counters. The state keeps the last observation of every key; a new one always replaces it
(`get?_observe`), and gives the rate since the one before where there is one and time has passed.
-/

namespace DiskHealth

/-- The last observation of a counter. -/
structure Counter where
  /-- When it was made, in seconds since the epoch. -/
  timestamp : Float
  value : Int64

/-- Why an observation gave no rate. -/
inductive RateError where
  /-- It is the first of its key. -/
  | initialized (key : String)
  /-- It is not later than the one before. -/
  | noTimeDifference (key : String)
  deriving DecidableEq, Repr

namespace RateError

def key : RateError → String
  | initialized key => key
  | noTimeDifference key => key

def message : RateError → String
  | initialized key => "counter " ++ key ++ " initialized"
  | noTimeDifference key => "no time difference for counter " ++ key

end RateError

/-- The last observations of all counters, by key. -/
abbrev RateState := SortedMap Counter

namespace RateState

/-- How far a counter rose, as an exact number. -/
def rise (before after : Int64) : Nat :=
  (after.toInt - before.toInt).toNat

/-- The rate of a counter from one observation to the next, in counts per second. A counter that
fell was reset, and has rate zero. -/
def rate (key : String) (previous : Option Counter) (now : Float) (value : Int64) :
    Except RateError Float :=
  match previous with
  | none => .error (.initialized key)
  | some previous =>
    let elapsed := now - previous.timestamp
    if elapsed ≤ 0 then .error (.noTimeDifference key)
    else if value < previous.value then .ok 0
    else .ok ((rise previous.value value).toUInt64.toFloat / elapsed)

theorem key_of_rate_eq_error {key : String} {previous : Option Counter} {now : Float} {value : Int64}
    {cause : RateError} (h : rate key previous now value = .error cause) : cause.key = key := by
  cases previous with
  | none =>
    cases h
    rfl
  | some previous =>
    simp only [rate] at h
    split at h
    · cases h
      rfl
    · split at h <;> cases h

/-- The rate of a counter at a new observation, and the state with the observation in it. -/
def observe (s : RateState) (key : String) (now : Float) (value : Int64) :
    Except RateError Float × RateState :=
  (rate key (s.get? key) now value, s.insert key ⟨now, value⟩)

/-- An observation replaces the one before it, whether it gives a rate or not. -/
theorem get?_observe (s : RateState) (key other : String) (now : Float) (value : Int64) :
    (s.observe key now value).2.get? other =
      if key = other then some ⟨now, value⟩ else s.get? other :=
  SortedMap.get?_insert s key other _

end RateState

end DiskHealth
