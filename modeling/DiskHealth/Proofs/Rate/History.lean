import DiskHealth.Proofs.Rate.Elapsed

/-!
Histories of counters: observations under many keys, one after the other. A key keeps the last
observation made of it, so the rate that an observation gives depends on the latest one before it
under its own key and on nothing else (`getElem?_observeAll`). The observations of one key give the
same rates as in a history of their own (`ratesOf_eq`). The main statement is the law of a whole
history, with the distance of two values as an exact number.
-/

namespace DiskHealth

/-- One observation of a counter. -/
structure Observation where
  key : String
  timestamp : Float
  value : Int64

/-- What an observation leaves under its key. -/
def Observation.counter (o : Observation) : Counter :=
  ⟨o.timestamp, o.value⟩

namespace RateState

/-- The rates of some observations, one after the other, and the state after the last. -/
def observeAll (s : RateState) : List Observation → List (Except RateError Float) × RateState
  | [] => ([], s)
  | o :: os =>
    let (rate, s) := s.observe o.key o.timestamp o.value
    let (rates, s) := observeAll s os
    (rate :: rates, s)

/-- The last observation of a key in a history. -/
def latest? (key : String) (os : List Observation) : Option Counter :=
  (os.reverse.find? (·.key == key)).map Observation.counter

/-- The rates that the observations of a key give in a history. -/
def ratesOf (s : RateState) (key : String) (os : List Observation) :
    List (Except RateError Float) :=
  ((os.zip (s.observeAll os).1).filter (·.1.key == key)).map (·.2)

/-- The rates that observations of one key give, after `previous`. -/
def ratesFrom (key : String) (previous : Option Counter) :
    List Observation → List (Except RateError Float)
  | [] => []
  | o :: os => rate key previous o.timestamp o.value :: ratesFrom key (some o.counter) os

theorem observeAll_append (s : RateState) (os ps : List Observation) :
    s.observeAll (os ++ ps) =
      ((s.observeAll os).1 ++ ((s.observeAll os).2.observeAll ps).1,
        ((s.observeAll os).2.observeAll ps).2) := by
  induction os generalizing s with
  | nil => rfl
  | cons o os ih => simp only [List.cons_append, observeAll, ih]

theorem length_observeAll (s : RateState) (os : List Observation) :
    (s.observeAll os).1.length = os.length := by
  induction os generalizing s with
  | nil => rfl
  | cons o os ih => simp only [observeAll, List.length_cons, ih]

theorem latest?_cons (key : String) (o : Observation) (os : List Observation) :
    latest? key (o :: os) =
      (latest? key os).or (if o.key = key then some o.counter else none) := by
  unfold latest?
  rw [List.reverse_cons, List.find?_append]
  cases os.reverse.find? (·.key == key) with
  | some last => rfl
  | none => by_cases h : o.key = key <;> simp [h]

/-- A key keeps its last observation, and a key without any what it had. -/
theorem get?_observeAll (s : RateState) (key : String) (os : List Observation) :
    (s.observeAll os).2.get? key = (latest? key os).or (s.get? key) := by
  induction os generalizing s with
  | nil => rfl
  | cons o os ih =>
    have hstep : (s.observeAll (o :: os)).2 =
        ((s.observe o.key o.timestamp o.value).2.observeAll os).2 := rfl
    rw [hstep, ih, get?_observe, latest?_cons, Option.or_assoc]
    by_cases h : o.key = key
    · rw [if_pos h, if_pos h]
      rfl
    · rw [if_neg h, if_neg h, Option.none_or]

theorem getElem?_observeAll (s : RateState) (before : List Observation) (o : Observation)
    (after : List Observation) :
    (s.observeAll (before ++ o :: after)).1[before.length]? =
      some (rate o.key ((latest? o.key before).or (s.get? o.key)) o.timestamp o.value) := by
  rw [observeAll_append, List.getElem?_append_right (Nat.le_of_eq (length_observeAll s before)),
    length_observeAll, Nat.sub_self, ← get?_observeAll]
  rfl

/-! ### The observations of one key -/

/-- Among the observations of a history those of one key give the rates that they give alone. -/
theorem ratesOf_eq (s : RateState) (key : String) (os : List Observation) :
    s.ratesOf key os = ratesFrom key (s.get? key) (os.filter (·.key == key)) := by
  induction os generalizing s with
  | nil => rfl
  | cons o os ih =>
    have hstep : s.ratesOf key (o :: os) =
        (if o.key = key then [rate o.key (s.get? o.key) o.timestamp o.value] else []) ++
          (s.observe o.key o.timestamp o.value).2.ratesOf key os := by
      unfold ratesOf
      by_cases h : o.key = key <;> simp [observeAll, observe, h]
    rw [hstep, ih, get?_observe]
    by_cases h : o.key = key
    · simp [h, ratesFrom, Observation.counter]
    · simp [h]

/-! ### The distance of two values -/

theorem toNat_rise {before after : Int64} (h : before ≤ after) :
    ((rise before after).toUInt64.toNat : Int) = after.toInt - before.toInt := by
  have hle : before.toInt ≤ after.toInt := Int64.le_iff_toInt_le.1 h
  have hlow := Int64.le_toInt before
  have hhigh := Int64.toInt_lt after
  have hlt : rise before after < 2 ^ 64 := by
    unfold rise
    omega
  rw [Nat.toUInt64, UInt64.toNat_ofNat', Nat.mod_eq_of_lt hlt]
  unfold rise
  omega

/-- Every observation of a history gives a rate or the reason why not, and every key ends up with the
last observation made of it. What is given follows from the latest observation of the key before: a
first one and one that is not later give no rate, a counter that fell has rate zero, and any other
the exact distance of the two values over the time between them. Observations of other keys change
nothing. -/
theorem rates_follow_latest (s : RateState) (os : List Observation) :
    (s.observeAll os).1.length = os.length ∧
    (∀ key, (s.observeAll os).2.get? key = (latest? key os).or (s.get? key)) ∧
    (∀ before o after, os = before ++ o :: after →
      ∃ r, (s.observeAll os).1[before.length]? = some r ∧
        match (latest? o.key before).or (s.get? o.key) with
        | none => r = .error (.initialized o.key)
        | some p =>
          (o.timestamp - p.timestamp ≤ 0 → r = .error (.noTimeDifference o.key)) ∧
          (¬o.timestamp - p.timestamp ≤ 0 → o.value < p.value → r = .ok 0) ∧
          (¬o.timestamp - p.timestamp ≤ 0 → p.value ≤ o.value →
            ∃ distance : UInt64, (distance.toNat : Int) = o.value.toInt - p.value.toInt ∧
              r = .ok (distance.toFloat / (o.timestamp - p.timestamp)))) ∧
    ∀ (key : String) (s' : RateState) (os' : List Observation), s'.get? key = s.get? key →
      os'.filter (·.key == key) = os.filter (·.key == key) →
        s'.ratesOf key os' = s.ratesOf key os := by
  refine ⟨length_observeAll s os, fun key => get?_observeAll s key os, ?_, ?_⟩
  · rintro before o after rfl
    refine ⟨_, getElem?_observeAll s before o after, ?_⟩
    cases (latest? o.key before).or (s.get? o.key) with
    | none => rfl
    | some p =>
      refine ⟨fun hnow => ?_, fun hlater hfell => ?_, fun hlater hrose => ?_⟩
      · exact rate_eq_noTimeDifference_iff.2 ⟨p, rfl, hnow⟩
      · rw [rate_of_later hlater, if_pos hfell]
      · refine ⟨_, toNat_rise hrose, ?_⟩
        rw [rate_of_later hlater, if_neg (Int64.not_lt.2 hrose)]
  · intro key s' os' hstate hsame
    rw [ratesOf_eq, ratesOf_eq, hstate, hsame]

/-- Two counters in turn: one goes from the least word to the greatest, the other falls, and is then
observed again at the same time. -/
def crossing : List Observation :=
  [⟨"a", 0, Int64.minValue⟩, ⟨"b", 0, 5⟩, ⟨"a", 3600, Int64.maxValue⟩, ⟨"b", 60, 3⟩, ⟨"b", 60, 9⟩]

theorem rates_follow_latest_crossing :
    (((∅ : RateState).observeAll crossing).1[2]? =
        some (.ok ((0xFFFFFFFFFFFFFFFF : UInt64).toFloat / 3600))) ∧
      ((∅ : RateState).observeAll crossing).1[3]? = some (.ok 0) ∧
      ((∅ : RateState).observeAll crossing).1[4]? = some (.error (.noTimeDifference "b")) ∧
      (∅ : RateState).ratesOf "b" crossing =
        (∅ : RateState).ratesOf "b" [⟨"b", 0, 5⟩, ⟨"b", 60, 3⟩, ⟨"b", 60, 9⟩] := by
  obtain ⟨-, -, hrates, hothers⟩ := rates_follow_latest ∅ crossing
  refine ⟨?_, ?_, ?_, (hothers "b" ∅ [⟨"b", 0, 5⟩, ⟨"b", 60, 3⟩, ⟨"b", 60, 9⟩] rfl rfl).symm⟩
  · obtain ⟨r, hr, -, -, hrose⟩ :=
      hrates [⟨"a", 0, Int64.minValue⟩, ⟨"b", 0, 5⟩] ⟨"a", 3600, Int64.maxValue⟩ _ rfl
    obtain ⟨distance, hdistance, hvalue⟩ := hrose (by decide) (by decide)
    have hexact : distance = 0xFFFFFFFFFFFFFFFF := UInt64.toNat_inj.1 (Int.ofNat.inj hdistance)
    rw [hexact] at hvalue
    exact hr.trans (congrArg some hvalue)
  · obtain ⟨r, hr, -, hfell, -⟩ := hrates
      [⟨"a", 0, Int64.minValue⟩, ⟨"b", 0, 5⟩, ⟨"a", 3600, Int64.maxValue⟩] ⟨"b", 60, 3⟩ _ rfl
    exact hr.trans (congrArg some (hfell (by decide) (by decide)))
  · obtain ⟨r, hr, hnow, -, -⟩ := hrates
      [⟨"a", 0, Int64.minValue⟩, ⟨"b", 0, 5⟩, ⟨"a", 3600, Int64.maxValue⟩, ⟨"b", 60, 3⟩]
      ⟨"b", 60, 9⟩ _ rfl
    exact hr.trans (congrArg some (hnow (by decide)))

end RateState

end DiskHealth
