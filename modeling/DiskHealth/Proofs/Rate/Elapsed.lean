import DiskHealth.Check.Assessment
import DiskHealth.Rate.State

/-!
When an observation gives a rate. The first of its key gives none, and neither does one that is not
later than the one before; every other does, and its rate is too high exactly if the counter rose
and rose too fast (`exceeds_rate_iff`).
-/

namespace DiskHealth

open Float.Model (UnpackedFloat)

theorem toModel_zero : (0 : Float).toModel.unpack = .zero .positive := rfl

theorem le_zero_of_zero_lt {s : UnpackedFloat.Sign} {u : UnpackedFloat}
    (h : UnpackedFloat.lt (.zero s) u = true) : UnpackedFloat.le u (.zero s) = false := by
  cases u with
  | infinity t =>
    cases t with
    | positive => rfl
    | negative => cases h
  | notANumber => rfl
  | zero t => cases h
  | finite t =>
    cases t with
    | positive => rfl
    | negative => cases h

/-- What is above zero is not below or at it. -/
theorem not_le_zero_of_pos {x : Float} (h : 0 < x) : ¬x ≤ 0 := by
  intro hle
  have hlt : UnpackedFloat.lt (0 : Float).toModel.unpack x.toModel.unpack = true :=
    of_decide_eq_true h
  have hle : UnpackedFloat.le x.toModel.unpack (0 : Float).toModel.unpack = true :=
    of_decide_eq_true hle
  rw [toModel_zero] at hlt hle
  rw [le_zero_of_zero_lt hlt] at hle
  cases hle

namespace RateState

variable {key : String} {previous : Option Counter} {p : Counter} {now : Float} {v : Int64}

theorem rate_eq_initialized_iff :
    rate key previous now v = .error (.initialized key) ↔ previous = none := by
  cases previous with
  | none => simp [rate]
  | some p =>
    simp only [rate, reduceCtorEq, iff_false]
    split
    · simp
    · split <;> simp

theorem rate_eq_noTimeDifference_iff :
    rate key previous now v = .error (.noTimeDifference key) ↔
      ∃ p, previous = some p ∧ now - p.timestamp ≤ 0 := by
  cases previous with
  | none => simp [rate]
  | some p =>
    simp only [rate, Option.some.injEq, exists_eq_left']
    split
    · rename_i h
      simp [h]
    · rename_i h
      split <;> simp [h]

theorem rate_of_later (h : ¬now - p.timestamp ≤ 0) :
    rate key (some p) now v = .ok
      (if v < p.value then 0
        else (rise p.value v).toUInt64.toFloat / (now - p.timestamp)) := by
  simp only [rate, h, if_false]
  split <;> rfl

/-- A counter that fell is never too fast. -/
theorem exceeds_rate_iff {quotient : Float} :
    Assessment.maxTimeoutRate < (if v < p.value then 0 else quotient) ↔
      p.value ≤ v ∧ Assessment.maxTimeoutRate < quotient := by
  have hzero : ¬Assessment.maxTimeoutRate < 0 := by decide
  split
  · rename_i hlt
    simp [hzero, Int64.not_le.2 hlt]
  · rename_i hnlt
    simp [Int64.not_lt.1 hnlt]

end RateState

end DiskHealth
