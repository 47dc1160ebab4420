import DiskHealth.Proofs.Check.Independence
import DiskHealth.Proofs.Rate.Elapsed

/-!
Runs of cycles over one rate state that is empty at first. Whatever is checked in between, the
counter of an item holds what the latest round observed of it (`get?_ratesAfter`), so the rate of a
round is the one since that observation. The main statement says when the item is put off and when
its counter is critical, at every round of every run.
-/

namespace DiskHealth

/-- One cycle of a run: its time, what is stored and what is reported then, and the item that it is
limited to, if any. -/
structure Round where
  now : Float
  store : BaselineStore
  telemetry : Section
  only : Option String := none

namespace Round

/-- The cycle of a round, for a check of some name. -/
def cycle (check : String) (k : Round) : Cycle :=
  ⟨check, k.now⟩

/-- What a round has for its items, and the rate state after it. -/
def checks (check : String) (k : Round) (rates : RateState) : List Cycle.ItemCheck × RateState :=
  (k.cycle check).checkAll k.store k.telemetry k.only rates

/-- The baseline of an item that is checked in a round. -/
def baseline? (k : Round) (item : String) : Option Baseline :=
  if k.only.all (· == item) then k.store.get? item else none

/-- What a round observes of an item's counter. -/
def sample? (k : Round) (item : String) : Option Counter :=
  (k.baseline? item).bind fun b =>
    (Cycle.observation? k.telemetry item b).map fun v => ⟨k.now, v⟩

/-- The rate state after some rounds. -/
def ratesAfter (check : String) (rounds : List Round) : RateState :=
  rounds.foldl (fun rates k => (k.checks check rates).2) ∅

/-- What the latest round that observes an item's counter observes of it. -/
def lastSample? (item : String) (rounds : List Round) : Option Counter :=
  rounds.reverse.findSome? (·.sample? item)

/-- A round that follows others puts an item off. -/
def PutsOff (check item : String) (before : List Round) (k : Round) : Prop :=
  ∃ cause, .error (.rate item cause) ∈ (k.checks check (ratesAfter check before)).1

variable {check item : String} {k : Round} {b : Baseline} {rates : RateState}

theorem mem_selected {item : String} {b : Baseline} :
    (item, b) ∈ Cycle.selected k.store k.only ↔ k.baseline? item = some b := by
  rw [Cycle.mem_selected_iff, baseline?]
  cases k.only with
  | none => simp
  | some other =>
    by_cases h : other = item
    · simp [h]
    · simp [h, Ne.symm h]

/-! ### The counter of an item -/

/-- A round replaces the counter of an item by its observation, if it makes one. -/
theorem get?_checks (check item : String) (k : Round) (rates : RateState) :
    (k.checks check rates).2.get? (RateKey.ofTimeouts check item) =
      (k.sample? item).or (rates.get? (RateKey.ofTimeouts check item)) := by
  unfold checks sample?
  rw [Cycle.checkAll_snd]
  cases hb : k.baseline? item with
  | none =>
    refine Cycle.get?_checkItems_of_notMem (k.cycle check) ?_
    intro hm
    obtain ⟨⟨_, b⟩, he, rfl⟩ := List.mem_map.1 hm
    exact nomatch hb.symm.trans (mem_selected.1 he)
  | some b =>
    have he : (item, b) ∈ Cycle.selected k.store k.only := mem_selected.2 hb
    have hnodup := Cycle.nodup_selected k.store k.only
    rw [Option.bind_some]
    cases ho : Cycle.observation? k.telemetry item b with
    | some v => exact Cycle.get?_checkItems_of_mem (k.cycle check) hnodup he ho
    | none =>
      refine Cycle.get?_checkItems_of_quiet (k.cycle check) ?_
      rintro ⟨other, b'⟩ he' hk
      obtain rfl := RateKey.ofTimeouts_injective hk
      cases hb.symm.trans (mem_selected.1 he')
      exact ho

theorem get?_foldl_checks (rounds : List Round) (rates : RateState) :
    (rounds.foldl (fun rates k => (k.checks check rates).2) rates).get?
        (RateKey.ofTimeouts check item) =
      (lastSample? item rounds).or (rates.get? (RateKey.ofTimeouts check item)) := by
  unfold lastSample?
  induction rounds generalizing rates with
  | nil => rfl
  | cons k rest ih =>
    rw [List.foldl_cons, ih, get?_checks, List.reverse_cons, List.findSome?_append, Option.or_assoc]
    simp only [List.findSome?_cons, List.findSome?_nil]
    cases k.sample? item <;> rfl

/-- The counter of an item is the one that the latest round observed. -/
theorem get?_ratesAfter (check item : String) (rounds : List Round) :
    (ratesAfter check rounds).get? (RateKey.ofTimeouts check item) = lastSample? item rounds := by
  rw [ratesAfter, get?_foldl_checks, SortedMap.get?_empty, Option.or_none]

/-! ### The check of an item in a run -/

/-- What the check of an item finds in a round that follows others. -/
def found (check item : String) (b : Baseline) (before : List Round) (k : Round) :
    Cycle.ItemCheck :=
  ((k.cycle check).checkItem item b k.telemetry (ratesAfter check before)).1

theorem rate_eq (check item : String) (before : List Round) (k : Round) (v : Int64) :
    (k.cycle check).rate item (ratesAfter check before) v =
      RateState.rate (RateKey.ofTimeouts check item) (lastSample? item before) k.now v := by
  rw [← get?_ratesAfter check]
  rfl

theorem found_of_quiet (check : String) (before : List Round)
    (ho : Cycle.observation? k.telemetry item b = none) :
    ∃ o, found check item b before k = .ok o := by
  unfold found
  cases hs : k.telemetry.get? item with
  | none => exact ⟨_, by rw [Cycle.checkItem_of_absent _ hs]⟩
  | some r =>
    have hr : Cycle.observed? r b = none := by simpa [Cycle.observation?, hs] using ho
    exact ⟨_, by rw [Cycle.checkItem_of_quiet _ 0 hs hr]⟩

/-- The rate since the latest observation decides what is found. -/
theorem found_of_observed (check : String) (before : List Round) {v : Int64}
    (ho : Cycle.observation? k.telemetry item b = some v) :
    ∃ r, k.telemetry.get? item = some r ∧ Cycle.observed? r b = some v ∧
      found check item b before k =
        match RateState.rate (RateKey.ofTimeouts check item) (lastSample? item before) k.now v with
        | .ok x => .ok ⟨item, Cycle.results r b x⟩
        | .error cause => .error (.rate item cause) := by
  cases hs : k.telemetry.get? item with
  | none => simp [Cycle.observation?, hs] at ho
  | some r =>
    have hr : Cycle.observed? r b = some v := by simpa [Cycle.observation?, hs] using ho
    refine ⟨r, rfl, hr, ?_⟩
    unfold found
    rw [Cycle.checkItem_of_observed _ hs hr, rate_eq]
    cases RateState.rate _ (lastSample? item before) k.now v <;> rfl

theorem found_eq_error_iff {before : List Round} {v : Int64} {cause : RateError}
    (ho : Cycle.observation? k.telemetry item b = some v) :
    found check item b before k = .error (.rate item cause) ↔
      RateState.rate (RateKey.ofTimeouts check item) (lastSample? item before) k.now v =
        .error cause := by
  obtain ⟨r, -, -, hf⟩ := found_of_observed check before ho
  rw [hf]
  cases RateState.rate _ (lastSample? item before) k.now v <;> simp

/-- A rate that is there makes the counter critical exactly if it is too high. -/
theorem found_of_rate (check : String) {before : List Round} {v : Int64} {x : Float}
    (ho : Cycle.observation? k.telemetry item b = some v)
    (hx : RateState.rate (RateKey.ofTimeouts check item) (lastSample? item before) k.now v =
      .ok x) :
    ∃ o y, found check item b before k = .ok o ∧ o.result? .commandTimeoutCounter = some y ∧
      (y.verdict = .critical ↔ Assessment.maxTimeoutRate < x) := by
  obtain ⟨r, -, hr, hf⟩ := found_of_observed check before ho
  obtain ⟨hv, reference, hb⟩ := Cycle.observed?_eq_some_iff.1 hr
  rw [hx] at hf
  refine ⟨_, Cycle.resultOf .commandTimeoutCounter v
    (Cycle.assessment r b x .commandTimeoutCounter v), hf, ?_, ?_⟩
  · show (Attribute.all.filterMap (Cycle.result? r b x)).find? _ = _
    rw [Cycle.find?_filterMap, if_pos (Attribute.mem_all _), Cycle.result?_eq_some_iff]
    exact ⟨by decide, v, hv, rfl⟩
  · show (Cycle.assessment r b x .commandTimeoutCounter v).verdict = .critical ↔ _
    rw [Cycle.assessment_counter hb, Assessment.verdict_rateLimited]

/-- An item is put off exactly if its own check finds no rate. -/
theorem putsOff_iff {before : List Round} :
    PutsOff check item before k ↔
      ∃ b e, k.baseline? item = some b ∧ found check item b before k = .error e := by
  unfold PutsOff checks found
  simp only [Cycle.mem_checkAll_iff]
  constructor
  · rintro ⟨cause, ⟨⟨other, b⟩, he, hx⟩ | ⟨_, _, _, hx⟩⟩
    · obtain ⟨cause', hc, -⟩ := Cycle.checkItem_eq_error _ hx
      cases hc
      exact ⟨b, _, mem_selected.1 he, hx⟩
    · exact nomatch hx
  · rintro ⟨b, e, hb, hx⟩
    obtain ⟨cause, rfl, -⟩ := Cycle.checkItem_eq_error _ hx
    exact ⟨cause, .inl ⟨(item, b), mem_selected.2 hb, hx⟩⟩

/-! ### Rounds at later and later times -/

theorem lastSample?_eq_none_iff {rounds : List Round} :
    lastSample? item rounds = none ↔ ∀ j ∈ rounds, j.sample? item = none := by
  simp [lastSample?, List.findSome?_eq_none_iff]

theorem exists_of_lastSample? {rounds : List Round} {p : Counter}
    (h : lastSample? item rounds = some p) : ∃ j ∈ rounds, p.timestamp = j.now := by
  obtain ⟨j, hj, hp⟩ := List.exists_of_findSome?_eq_some h
  refine ⟨j, List.mem_reverse.1 hj, ?_⟩
  unfold sample? at hp
  obtain ⟨b, -, hp⟩ := Option.bind_eq_some_iff.1 hp
  obtain ⟨v, -, rfl⟩ := Option.map_eq_some_iff.1 hp
  rfl

theorem sample?_of_baseline (hb : k.baseline? item = some b) :
    k.sample? item = (Cycle.observation? k.telemetry item b).map fun v => ⟨k.now, v⟩ := by
  simp [sample?, hb]

/-- A round later than all before it puts an item off exactly if it is the first to observe its
counter. -/
theorem putsOff_iff_first {before : List Round} (hlater : ∀ j ∈ before, 0 < k.now - j.now) :
    PutsOff check item before k ↔
      (∃ p, k.sample? item = some p) ∧ ∀ j ∈ before, j.sample? item = none := by
  rw [putsOff_iff, ← lastSample?_eq_none_iff]
  constructor
  · rintro ⟨b, e, hb, hf⟩
    rw [sample?_of_baseline hb]
    cases ho : Cycle.observation? k.telemetry item b with
    | none =>
      obtain ⟨o, hok⟩ := found_of_quiet check before ho
      exact nomatch hok.symm.trans hf
    | some v =>
      refine ⟨⟨_, rfl⟩, ?_⟩
      cases hl : lastSample? item before with
      | none => rfl
      | some p =>
        obtain ⟨j, hj, hp⟩ := exists_of_lastSample? hl
        have hpos : ¬k.now - p.timestamp ≤ 0 := hp ▸ not_le_zero_of_pos (hlater j hj)
        obtain ⟨o, -, hok, -⟩ :=
          found_of_rate check ho (hl ▸ RateState.rate_of_later hpos)
        exact nomatch hok.symm.trans hf
  · rintro ⟨⟨p, hp⟩, hl⟩
    cases hb : k.baseline? item with
    | none => simp [sample?, hb] at hp
    | some b =>
      rw [sample?_of_baseline hb] at hp
      obtain ⟨v, ho, -⟩ := Option.map_eq_some_iff.1 hp
      exact ⟨b, _, rfl, (found_eq_error_iff ho).2 (RateState.rate_eq_initialized_iff.2 hl)⟩

/-- A round that checks an item, but does not observe its counter, never puts it off and leaves the
counter as it is. One that observes it stores what it observes, puts the item off if there is no
observation before or the latest one is not earlier, and otherwise calls the counter critical
exactly if it rose since then, and too fast. If every round is later than all before it, an item is
put off in the first round that observes its counter and in no other. -/
theorem checkItem_in_run (check item : String) (before : List Round) (k : Round) (b : Baseline)
    (hb : k.baseline? item = some b) :
    found check item b before k ∈ (k.checks check (ratesAfter check before)).1 ∧
      (match Cycle.observation? k.telemetry item b with
      | none =>
        (∃ o, found check item b before k = .ok o) ∧
          (k.checks check (ratesAfter check before)).2.get? (RateKey.ofTimeouts check item) =
            (ratesAfter check before).get? (RateKey.ofTimeouts check item)
      | some v =>
        (k.checks check (ratesAfter check before)).2.get? (RateKey.ofTimeouts check item) =
            some ⟨k.now, v⟩ ∧
          (found check item b before k =
              .error (.rate item (.initialized (RateKey.ofTimeouts check item))) ↔
            lastSample? item before = none) ∧
          (found check item b before k =
              .error (.rate item (.noTimeDifference (RateKey.ofTimeouts check item))) ↔
            ∃ p, lastSample? item before = some p ∧ k.now - p.timestamp ≤ 0) ∧
          ∀ p, lastSample? item before = some p → ¬k.now - p.timestamp ≤ 0 →
            ∃ o y, found check item b before k = .ok o ∧
              o.result? .commandTimeoutCounter = some y ∧
              (y.verdict = .critical ↔ p.value ≤ v ∧ Assessment.maxTimeoutRate <
                (RateState.rise p.value v).toUInt64.toFloat / (k.now - p.timestamp))) ∧
      ((before ++ [k]).Pairwise (fun i j => 0 < j.now - i.now) →
        (PutsOff check item before k ↔
          (∃ p, k.sample? item = some p) ∧ ∀ j ∈ before, j.sample? item = none) ∧
        ∀ before' j between, before = before' ++ j :: between → PutsOff check item before' j →
          ¬PutsOff check item before k) := by
  refine ⟨(Cycle.mem_checkAll_iff _).2 (.inl ⟨(item, b), mem_selected.2 hb, rfl⟩), ?_, ?_⟩
  · have hstate := get?_checks check item k (ratesAfter check before)
    rw [sample?_of_baseline hb] at hstate
    cases ho : Cycle.observation? k.telemetry item b with
    | none =>
      rw [ho] at hstate
      exact ⟨found_of_quiet check before ho, hstate⟩
    | some v =>
      rw [ho] at hstate
      refine ⟨hstate, ?_, ?_, ?_⟩
      · rw [found_eq_error_iff ho, RateState.rate_eq_initialized_iff]
      · rw [found_eq_error_iff ho, RateState.rate_eq_noTimeDifference_iff]
      · intro p hp hlater
        obtain ⟨o, y, hf, hy, hcritical⟩ :=
          found_of_rate check ho (hp ▸ RateState.rate_of_later hlater)
        exact ⟨o, y, hf, hy, hcritical.trans RateState.exceeds_rate_iff⟩
  · intro hpairs
    obtain ⟨hbefore, -, hk⟩ := List.pairwise_append.1 hpairs
    have hlater : ∀ j ∈ before, 0 < k.now - j.now := fun j hj => hk j hj k (by simp)
    refine ⟨putsOff_iff_first hlater, ?_⟩
    rintro before' j between rfl hj hputs
    obtain ⟨-, -, hj'⟩ := List.pairwise_append.1 hbefore
    obtain ⟨⟨p, hp⟩, -⟩ := (putsOff_iff_first fun i hi => hj' i hi j (by simp)).1 hj
    have hnone := ((putsOff_iff_first hlater).1 hputs).2 j (by simp)
    exact nomatch hp.symm.trans hnone

/-- The baseline of a counter that was zero at discovery. -/
def counterBaseline : Baseline :=
  .ofList [("Command_Timeout_Counter", 0)]

/-- A round that finds a counter at a value. -/
def ofCounter (now : Float) (value : Int64) : Round where
  now := now
  store := .ofList [("sda", counterBaseline)]
  telemetry := .ofList [("sda", { attributes := .ofList [("Command_Timeout_Counter", value)] })]

/-- A round in which the device is missing. -/
def ofNothing (now : Float) : Round where
  now := now
  store := .ofList [("sda", counterBaseline)]
  telemetry := ∅

/-- A device goes missing for a round and comes back with a hundred thousand more timeouts in an
hour: its first round puts it off, its last one is critical. -/
theorem checkItem_in_run_of_missing :
    (ofCounter 3600 100050).baseline? "sda" = some counterBaseline ∧
      PutsOff "smart" "sda" [] (ofCounter 0 50) ∧
      (∃ o y, found "smart" "sda" counterBaseline [ofCounter 0 50, ofNothing 1800]
          (ofCounter 3600 100050) = .ok o ∧
        o.result? .commandTimeoutCounter = some y ∧ y.verdict = .critical) ∧
      ¬PutsOff "smart" "sda" [ofCounter 0 50, ofNothing 1800] (ofCounter 3600 100050) := by
  have hb : ∀ now v, (ofCounter now v).baseline? "sda" = some counterBaseline := fun _ _ => rfl
  obtain ⟨-, -, hfirst⟩ := checkItem_in_run "smart" "sda" [] (ofCounter 0 50) _ (hb _ _)
  have hputs : PutsOff "smart" "sda" [] (ofCounter 0 50) :=
    (hfirst (by decide)).1.2 ⟨⟨⟨0, 50⟩, rfl⟩, fun j hj => nomatch hj⟩
  obtain ⟨-, ⟨-, -, -, hlater⟩, hruns⟩ := checkItem_in_run "smart" "sda"
    [ofCounter 0 50, ofNothing 1800] (ofCounter 3600 100050) _ (hb _ _)
  obtain ⟨o, y, hf, hy, hcritical⟩ := hlater ⟨0, 50⟩ rfl (by decide)
  exact ⟨hb _ _, hputs, ⟨o, y, hf, hy, hcritical.2 (by decide)⟩,
    (hruns (by decide)).2 [] (ofCounter 0 50) [ofNothing 1800] rfl hputs⟩

end Round

end DiskHealth
