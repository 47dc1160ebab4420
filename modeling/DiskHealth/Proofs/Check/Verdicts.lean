import DiskHealth.Check.Evaluation

/-!
What the check of one item finds. The evaluation of a reading is a list of results that depends on
the rate state only through the rate of the counter (`evaluate_of_quiet`, `evaluate_of_observed`).
The main statement compares it with the rules of the alarms, `Alarm`: an item is put off exactly if
its counter is observed and gives no rate, and otherwise every attribute that was reported and is
judged has one result, which is critical exactly if a rule raises the alarm.
-/

namespace DiskHealth

namespace Attribute

theorem policy_eq_rateLimited_iff {a : Attribute} :
    a.policy = .rateLimited ↔ a = .commandTimeoutCounter := by
  cases a <;> decide

theorem policy_eq_skipped_iff {a : Attribute} : a.policy = .skipped ↔ a = .temperature := by
  cases a <;> decide

theorem policy_eq_spareThreshold_iff {a : Attribute} :
    a.policy = .spareThreshold ↔ a = .availableSpare := by
  cases a <;> decide

end Attribute

namespace Assessment

theorem verdict_criticalIf {condition : Bool} {hint : String} :
    (criticalIf condition hint).verdict = .critical ↔ condition = true :=
  Verdict.criticalIf_eq_critical_iff

theorem verdict_exceeds {value reference : Int64} :
    (exceeds value reference).verdict = .critical ↔ reference < value := by
  rw [exceeds, verdict_criticalIf, decide_eq_true_iff]

theorem verdict_below {value reference : Int64} :
    (below value reference).verdict = .critical ↔ value < reference := by
  rw [below, verdict_criticalIf, decide_eq_true_iff]

theorem verdict_rateLimited {x : Float} {reference : Int64} :
    (rateLimited x reference).verdict = .critical ↔
      maxTimeoutRate < x := by
  rw [rateLimited, verdict_criticalIf, decide_eq_true_iff]

theorem verdict_crossCheck {a : Assessment} {pair : NormalizedPair} :
    (a.crossCheck pair).verdict = .critical ↔ pair.value ≤ pair.threshold := by
  show Verdict.criticalIf pair.isFailing = .critical ↔ _
  rw [Verdict.criticalIf_eq_critical_iff, NormalizedPair.isFailing, decide_eq_true_iff]

end Assessment

namespace Cycle

/-- The value of the counter that a cycle observes: the one of the reading, if the baseline holds
the counter too. -/
def observed? (r : Reading) (b : Baseline) : Option Int64 :=
  (b.value? .commandTimeoutCounter).bind fun _ => r.value? .commandTimeoutCounter

theorem observed?_eq_some_iff {r : Reading} {b : Baseline} {v : Int64} :
    observed? r b = some v ↔ r.value? .commandTimeoutCounter = some v ∧
      ∃ reference, b.value? .commandTimeoutCounter = some reference := by
  unfold observed?
  cases b.value? .commandTimeoutCounter <;> simp

/-- The rate that an item's counter has at a cycle, if its value is `v` then. -/
def rate (c : Cycle) (item : String) (rates : RateState) (v : Int64) : Except RateError Float :=
  (rates.observe (RateKey.ofTimeouts c.check item) c.now v).1

/-- The rate state after the value `v` of an item's counter was observed. -/
def observe (c : Cycle) (item : String) (rates : RateState) (v : Int64) : RateState :=
  (rates.observe (RateKey.ofTimeouts c.check item) c.now v).2

/-! ### Evaluation with a known rate -/

/-- The assessment of an attribute, where the rate of the counter is known. -/
def assessment (r : Reading) (b : Baseline) (rate : Float) (a : Attribute) (value : Int64) :
    Assessment :=
  match reference? r b a with
  | none => .informational
  | some reference =>
    if a.policy = .rateLimited then .rateLimited rate reference else compare r a value reference

/-- The result for an attribute that was reported and is judged, where the rate is known. -/
def result? (r : Reading) (b : Baseline) (rate : Float) (a : Attribute) : Option AttributeResult :=
  if a.policy = .skipped then none
  else (r.value? a).map fun v => resultOf a v (assessment r b rate a v)

section Evaluate

variable (c : Cycle) (item : String) {r : Reading} {b : Baseline} {rates : RateState}

/-- Without an observation the assessment leaves the rate state alone, and no rate counts. -/
theorem assess_of_quiet {a : Attribute} {v : Int64} (x : Float)
    (h : a = .commandTimeoutCounter → b.value? a = none) :
    c.assess item r b a v rates = (.ok (assessment r b x a v), rates) := by
  unfold assess assessment
  cases hr : reference? r b a with
  | none => rfl
  | some reference =>
    have hp : a.policy ≠ .rateLimited := by
      intro hp
      have ha := Attribute.policy_eq_rateLimited_iff.1 hp
      have hb : reference? r b a = b.value? a := by simp [reference?, hp]
      rw [hb, h ha] at hr
      exact nomatch hr
    simp [hp]

theorem assess_of_observed {v reference : Int64}
    (hb : b.value? .commandTimeoutCounter = some reference) :
    c.assess item r b .commandTimeoutCounter v rates =
      match c.rate item rates v with
      | .ok x => (.ok (assessment r b x .commandTimeoutCounter v), c.observe item rates v)
      | .error cause => (.error (.rate item cause), c.observe item rates v) := by
  have hr : reference? r b .commandTimeoutCounter = some reference := hb
  have hp : Attribute.commandTimeoutCounter.policy = .rateLimited := rfl
  unfold assess assessment rate observe
  rw [hr]
  simp only [hp, if_true]
  generalize rates.observe _ _ _ = step
  obtain ⟨x | cause, rates'⟩ := step <;> rfl

/-- Attributes among which the counter is not observed have their results, whatever the rates. -/
theorem evaluate_of_quiet (x : Float) {l : List Attribute}
    (h : .commandTimeoutCounter ∈ l → observed? r b = none) :
    c.evaluate item r b l rates = (.ok (l.filterMap (result? r b x)), rates) := by
  induction l with
  | nil => rfl
  | cons a rest ih =>
    have hrest := ih fun hm => h (List.mem_cons_of_mem _ hm)
    unfold evaluate
    cases hv : r.value? a with
    | none => simp [hrest, result?, hv]
    | some v =>
      by_cases hs : a.policy = .skipped
      · simp [hrest, result?, hs]
      · have hquiet : a = .commandTimeoutCounter → b.value? a = none := by
          rintro rfl
          have ho := h List.mem_cons_self
          unfold observed? at ho
          rw [hv] at ho
          cases hb : b.value? .commandTimeoutCounter with
          | none => rfl
          | some reference => simp [hb] at ho
        simp [hs, assess_of_quiet c item x hquiet, hrest, result?, hv]

/-- Attributes among which the counter is observed, once, have their results by its rate, or none
at all if there is no rate. The observation is kept either way. -/
theorem evaluate_of_observed {v : Int64} (ho : observed? r b = some v) {l : List Attribute}
    (hl : l.Nodup) (hm : .commandTimeoutCounter ∈ l) :
    c.evaluate item r b l rates =
      match c.rate item rates v with
      | .ok x => (.ok (l.filterMap (result? r b x)), c.observe item rates v)
      | .error cause => (.error (.rate item cause), c.observe item rates v) := by
  obtain ⟨hv, reference, hb⟩ := observed?_eq_some_iff.1 ho
  induction l with
  | nil => exact nomatch hm
  | cons a rest ih =>
    obtain ⟨hnot, hrest⟩ := List.nodup_cons.1 hl
    by_cases ha : a = .commandTimeoutCounter
    · subst ha
      have hs : Attribute.commandTimeoutCounter.policy ≠ .skipped := by decide
      unfold evaluate
      simp only [hv, hs, if_false, assess_of_observed c item hb]
      cases c.rate item rates v with
      | error cause => rfl
      | ok x =>
        simp only
        rw [evaluate_of_quiet c item x fun hmem => absurd hmem hnot]
        simp [result?, hs, hv]
    · have hih := ih hrest ((List.mem_cons.1 hm).resolve_left (Ne.symm ha))
      unfold evaluate
      cases hva : r.value? a with
      | none =>
        simp only [hih]
        cases c.rate item rates v <;> simp [result?, hva]
      | some w =>
        by_cases hs : a.policy = .skipped
        · simp only [hs, if_true, hih]
          cases c.rate item rates v <;> simp [result?, hs]
        · simp only [hs, if_false, hih]
          cases hx : c.rate item rates v with
          | error cause => simp [assess_of_quiet c item 0 fun h => absurd h ha, hih, hx]
          | ok x => simp [assess_of_quiet c item x fun h => absurd h ha, hih, hx, result?, hs, hva]

end Evaluate

/-! ### The rules of the alarms -/

/-- The rules by which the value of an attribute is critical. -/
inductive Alarm (r : Reading) (b : Baseline) (rate : Except RateError Float) :
    Attribute → Int64 → Prop
  /-- The available spare is below the threshold that the same reading gives. -/
  | spare {value threshold : Int64} (given : r.get? Attribute.spareThresholdName = some threshold)
      (low : value < threshold) : Alarm r b rate .availableSpare value
  /-- The normalized pair of the reallocated events is failing. -/
  | pair {value reference : Int64} {pair : NormalizedPair}
      (known : b.value? .reallocatedEvents = some reference)
      (given : r.reallocatedEvents = some pair) (low : pair.value ≤ pair.threshold) :
      Alarm r b rate .reallocatedEvents value
  /-- The value of an attribute without a rule of its own is above the one at discovery. -/
  | growth {a : Attribute} {value reference : Int64} (spare : a ≠ .availableSpare)
      (counter : a ≠ .commandTimeoutCounter)
      (pair : a = .reallocatedEvents → r.reallocatedEvents = none)
      (known : b.value? a = some reference) (grown : reference < value) : Alarm r b rate a value
  /-- The counter rises too fast. -/
  | rate {value reference : Int64} {x : Float}
      (known : b.value? .commandTimeoutCounter = some reference) (given : rate = .ok x)
      (fast : Assessment.maxTimeoutRate < x) : Alarm r b rate .commandTimeoutCounter value

section Assessment

variable {r : Reading} {b : Baseline} {rate : Except RateError Float} {x : Float} {a : Attribute}
  {value reference : Int64}

theorem verdict_informational : Assessment.informational.verdict ≠ .critical := by
  decide

theorem reference?_of_ne (h : a ≠ .availableSpare) : reference? r b a = b.value? a := by
  unfold reference?
  split
  · rename_i hp
    exact absurd (Attribute.policy_eq_spareThreshold_iff.1 hp) h
  · rfl

theorem verdict_assessment_spare :
    (assessment r b x .availableSpare value).verdict = .critical ↔
      Alarm r b rate .availableSpare value := by
  have hr : reference? r b .availableSpare = r.get? Attribute.spareThresholdName := rfl
  have hp : Attribute.availableSpare.policy = .spareThreshold := rfl
  unfold assessment
  rw [hr]
  constructor
  · intro hv
    cases hg : r.get? Attribute.spareThresholdName with
    | none => simp [hg, verdict_informational] at hv
    | some threshold =>
      simp only [hg, hp, compare, reduceCtorEq, if_false, Assessment.verdict_below] at hv
      exact .spare hg hv
  · intro ha
    cases ha with
    | spare given low =>
      simpa only [given, hp, compare, reduceCtorEq, if_false, Assessment.verdict_below] using low
    | growth hne => exact absurd rfl hne

/-- Without a value at discovery only the spare can raise an alarm. -/
theorem not_alarm_of_unknown (hspare : a ≠ .availableSpare) (hb : b.value? a = none) :
    ¬Alarm r b rate a value := by
  intro ha
  cases ha with
  | spare => exact hspare rfl
  | pair known | growth _ _ _ known | rate known => exact nomatch hb.symm.trans known

theorem verdict_assessment_events (hb : b.value? .reallocatedEvents = some reference) :
    (assessment r b x .reallocatedEvents value).verdict = .critical ↔
      Alarm r b rate .reallocatedEvents value := by
  have hp : Attribute.reallocatedEvents.policy = .normalizedCrossCheck := rfl
  unfold assessment
  rw [reference?_of_ne (by decide), hb]
  simp only [hp, compare, reduceCtorEq, if_false]
  cases hr : r.reallocatedEvents with
  | none =>
    simp only [Assessment.verdict_exceeds]
    constructor
    · exact fun grown => .growth (by decide) (by decide) (fun _ => hr) hb grown
    · intro ha
      cases ha with
      | pair _ given => exact nomatch hr.symm.trans given
      | growth _ _ _ known grown =>
        cases hb.symm.trans known
        exact grown
  | some pair =>
    simp only [Assessment.verdict_crossCheck]
    constructor
    · exact fun low => .pair hb hr low
    · intro ha
      cases ha with
      | pair _ given low =>
        cases hr.symm.trans given
        exact low
      | growth _ _ pair => exact nomatch hr.symm.trans (pair rfl)

theorem assessment_counter (hb : b.value? .commandTimeoutCounter = some reference) :
    assessment r b x .commandTimeoutCounter value = .rateLimited x reference := by
  unfold assessment
  rw [reference?_of_ne (by decide), hb]
  rfl

theorem verdict_assessment_counter (hb : b.value? .commandTimeoutCounter = some reference)
    (hx : rate = .ok x) :
    (assessment r b x .commandTimeoutCounter value).verdict = .critical ↔
      Alarm r b rate .commandTimeoutCounter value := by
  rw [assessment_counter hb, Assessment.verdict_rateLimited]
  constructor
  · exact fun fast => .rate hb hx fast
  · intro ha
    cases ha with
    | growth _ hne => exact absurd rfl hne
    | rate _ given fast =>
      cases hx.symm.trans given
      exact fast

theorem verdict_assessment_growth (hspare : a ≠ .availableSpare)
    (hevents : a ≠ .reallocatedEvents) (hcounter : a ≠ .commandTimeoutCounter)
    (hb : b.value? a = some reference) :
    (assessment r b x a value).verdict = .critical ↔ Alarm r b rate a value := by
  have hp : a.policy ≠ .rateLimited := mt Attribute.policy_eq_rateLimited_iff.1 hcounter
  have hc : compare r a value reference = .exceeds value reference := by
    cases a <;> first | rfl | contradiction
  unfold assessment
  rw [reference?_of_ne hspare, hb]
  simp only [hp, if_false, hc, Assessment.verdict_exceeds]
  constructor
  · exact fun grown => .growth hspare hcounter (fun h => absurd h hevents) hb grown
  · intro ha
    cases ha with
    | spare => exact absurd rfl hspare
    | pair => exact absurd rfl hevents
    | growth _ _ _ known grown =>
      cases hb.symm.trans known
      exact grown
    | rate => exact absurd rfl hcounter

/-- An assessment is critical exactly if a rule raises the alarm, where the rate that it used is the
one of the counter, if that is observed. -/
theorem verdict_assessment
    (h : a = .commandTimeoutCounter → ∀ reference, b.value? a = some reference → rate = .ok x) :
    (assessment r b x a value).verdict = .critical ↔ Alarm r b rate a value := by
  by_cases hspare : a = .availableSpare
  · subst hspare
    exact verdict_assessment_spare
  cases hb : b.value? a with
  | none =>
    have hi : assessment r b x a value = .informational := by
      simp [assessment, reference?_of_ne hspare, hb]
    rw [hi]
    exact iff_of_false verdict_informational (not_alarm_of_unknown hspare hb)
  | some reference =>
    by_cases hevents : a = .reallocatedEvents
    · subst hevents
      exact verdict_assessment_events hb
    by_cases hcounter : a = .commandTimeoutCounter
    · subst hcounter
      exact verdict_assessment_counter hb (h rfl reference hb)
    · exact verdict_assessment_growth hspare hevents hcounter hb

end Assessment

/-! ### The check of an item -/

/-- The results of a reading, in catalog order, where the rate of the counter is known. -/
def results (r : Reading) (b : Baseline) (rate : Float) : List AttributeResult :=
  Attribute.all.filterMap (result? r b rate)

/-- Whether an attribute is one that a reading gives a result for. -/
def isJudged (r : Reading) (a : Attribute) : Bool :=
  a ≠ .temperature && (r.value? a).isSome

theorem result?_eq_some_iff {r : Reading} {b : Baseline} {x : Float} {a : Attribute}
    {y : AttributeResult} :
    result? r b x a = some y ↔ a ≠ .temperature ∧
      ∃ v, r.value? a = some v ∧ resultOf a v (assessment r b x a v) = y := by
  unfold result?
  split
  · rename_i hs
    simp [Attribute.policy_eq_skipped_iff.1 hs]
  · rename_i hs
    rw [Option.map_eq_some_iff]
    exact (and_iff_right (mt Attribute.policy_eq_skipped_iff.2 hs)).symm

theorem subjects_filterMap (r : Reading) (b : Baseline) (x : Float) (l : List Attribute) :
    (l.filterMap (result? r b x)).map (·.subject) = l.filter (isJudged r) := by
  induction l with
  | nil => rfl
  | cons a rest ih =>
    cases hy : result? r b x a with
    | none =>
      have hj : isJudged r a = false := by
        cases hv : r.value? a <;>
          simp_all [result?, isJudged, Attribute.policy_eq_skipped_iff]
      rw [List.filterMap_cons_none hy, List.filter_cons_of_neg (by simp [hj]), ih]
    | some y =>
      obtain ⟨ht, v, hv, rfl⟩ := result?_eq_some_iff.1 hy
      have hj : isJudged r a = true := by simp [isJudged, ht, hv]
      rw [List.filterMap_cons_some hy, List.filter_cons_of_pos hj, List.map_cons, ih]
      rfl

theorem isJudged_eq_false_iff {r : Reading} {a : Attribute} :
    isJudged r a = false ↔ (r.value? a ≠ none → a = .temperature) := by
  by_cases h : a = .temperature <;> simp [isJudged, h]

/-- A reading gives no results exactly if it holds nothing that is judged. -/
theorem results_eq_nil_iff {r : Reading} {b : Baseline} {x : Float} :
    results r b x = [] ↔ ∀ a, isJudged r a = false := by
  have hsubjects : (results r b x).map (·.subject) = Attribute.all.filter (isJudged r) :=
    subjects_filterMap r b x Attribute.all
  rw [← List.map_eq_nil_iff (f := (·.subject)), hsubjects, List.filter_eq_nil_iff]
  constructor
  · intro h a
    simpa using h a (Attribute.mem_all a)
  · intro h a _
    simp [h a]

/-- The result for an attribute is found by the attribute. -/
theorem find?_filterMap {r : Reading} {b : Baseline} {x : Float} {l : List Attribute}
    {a : Attribute} :
    (l.filterMap (result? r b x)).find? (·.subject == a) =
      if a ∈ l then result? r b x a else none := by
  induction l with
  | nil => rfl
  | cons first rest ih =>
    cases hy : result? r b x first with
    | none =>
      rw [List.filterMap_cons_none hy, ih]
      by_cases h : a = first
      · subst h
        simp [hy]
      · simp [h]
    | some y =>
      obtain ⟨-, v, -, rfl⟩ := result?_eq_some_iff.1 hy
      rw [List.filterMap_cons_some hy, List.find?_cons, ih]
      by_cases h : a = first
      · subst h
        simp [resultOf, hy]
      · have hne : (first == a) = false := beq_false_of_ne (Ne.symm h)
        simp [resultOf, hne, h]

/-- The value of its counter that a cycle observes for an item. -/
def observation? (s : Section) (item : String) (b : Baseline) : Option Int64 :=
  (s.get? item).bind fun r => observed? r b

section CheckItem

variable (c : Cycle) {item : String} {b : Baseline} {s : Section} {rates : RateState} {r : Reading}

theorem checkItem_of_absent (hs : s.get? item = none) :
    c.checkItem item b s rates = (.ok ⟨item, []⟩, rates) := by
  simp [checkItem, hs]

theorem checkItem_of_quiet (x : Float) (hs : s.get? item = some r) (ho : observed? r b = none) :
    c.checkItem item b s rates = (.ok ⟨item, results r b x⟩, rates) := by
  simp [checkItem, hs, evaluate_of_quiet c item x fun _ => ho, results]

theorem checkItem_of_observed (hs : s.get? item = some r) {v : Int64}
    (ho : observed? r b = some v) :
    c.checkItem item b s rates =
      match c.rate item rates v with
      | .ok x => (.ok ⟨item, results r b x⟩, c.observe item rates v)
      | .error cause => (.error (.rate item cause), c.observe item rates v) := by
  unfold checkItem
  rw [hs]
  simp only [evaluate_of_observed c item ho Attribute.nodup_all (Attribute.mem_all _)]
  cases c.rate item rates v <;> rfl

/-- A check changes the rate state by its observation and by nothing else. -/
theorem checkItem_snd :
    (c.checkItem item b s rates).2 =
      match observation? s item b with
      | none => rates
      | some v => c.observe item rates v := by
  cases hs : s.get? item with
  | none => simp [checkItem_of_absent c hs, observation?, hs]
  | some r =>
    cases ho : observed? r b with
    | none => simp [checkItem_of_quiet c 0 hs ho, observation?, hs, ho]
    | some v =>
      simp only [checkItem_of_observed c hs ho, observation?, hs, Option.bind_some, ho]
      cases c.rate item rates v <;> rfl

/-- The check of an item finds a device missing, finds the results of its reading, or finds no rate
of the item's own counter. -/
theorem checkItem_cases (c : Cycle) (item : String) (b : Baseline) (s : Section)
    (rates : RateState) :
    (s.get? item = none ∧ (c.checkItem item b s rates).1 = .ok ⟨item, []⟩) ∨
      (∃ r x, s.get? item = some r ∧
        (c.checkItem item b s rates).1 = .ok ⟨item, results r b x⟩) ∨
      ∃ cause, cause.key = RateKey.ofTimeouts c.check item ∧
        (c.checkItem item b s rates).1 = .error (.rate item cause) := by
  cases hs : s.get? item with
  | none => exact .inl ⟨rfl, by rw [checkItem_of_absent c hs]⟩
  | some r =>
    refine .inr ?_
    cases ho : observed? r b with
    | none => exact .inl ⟨r, 0, rfl, by rw [checkItem_of_quiet c 0 hs ho]⟩
    | some v =>
      rw [checkItem_of_observed c hs ho]
      cases hx : c.rate item rates v with
      | ok x => exact .inl ⟨r, x, rfl, rfl⟩
      | error cause => exact .inr ⟨cause, RateState.key_of_rate_eq_error hx, rfl⟩

/-- An item is only ever put off for the rate of its own counter. -/
theorem checkItem_eq_error {e : CheckError} (h : (c.checkItem item b s rates).1 = .error e) :
    ∃ cause, e = .rate item cause ∧ cause.key = RateKey.ofTimeouts c.check item := by
  rcases checkItem_cases c item b s rates with
    ⟨-, hfound⟩ | ⟨r, x, -, hfound⟩ | ⟨cause, hkey, hfound⟩
  · cases hfound.symm.trans h
  · cases hfound.symm.trans h
  · cases hfound.symm.trans h
    exact ⟨cause, rfl, hkey⟩

/-- An outcome is that of a missing device, or has the results of the reading. -/
theorem checkItem_eq_ok {o : Outcome} (h : (c.checkItem item b s rates).1 = .ok o) :
    (s.get? item = none ∧ o = ⟨item, []⟩) ∨
      ∃ r x, s.get? item = some r ∧ o = ⟨item, results r b x⟩ := by
  rcases checkItem_cases c item b s rates with
    ⟨hs, hfound⟩ | ⟨r, x, hs, hfound⟩ | ⟨cause, -, hfound⟩
  · cases hfound.symm.trans h
    exact .inl ⟨hs, rfl⟩
  · cases hfound.symm.trans h
    exact .inr ⟨r, x, hs, rfl⟩
  · cases hfound.symm.trans h

theorem item_of_checkItem {o : Outcome} (h : (c.checkItem item b s rates).1 = .ok o) :
    o.item = item := by
  rcases checkItem_eq_ok c h with ⟨-, rfl⟩ | ⟨r, x, -, rfl⟩
  · rfl
  · rfl

end CheckItem

/-- A cycle observes the counter of an item, which gives no rate for a given reason. -/
def Refused (c : Cycle) (item : String) (r : Reading) (b : Baseline) (rates : RateState)
    (cause : RateError) : Prop :=
  ∃ v reference, r.value? .commandTimeoutCounter = some v ∧
    b.value? .commandTimeoutCounter = some reference ∧ c.rate item rates v = .error cause

/-- What an outcome says about a reading: one result for every attribute that was reported and is
judged, in catalog order, with its value and with the verdict of the rules. The worst of them is the
verdict on the item. -/
structure Judges (c : Cycle) (item : String) (r : Reading) (b : Baseline) (rates : RateState)
    (o : Outcome) : Prop where
  isFor : o.item = item
  subjects : o.results.map (·.subject) = Attribute.all.filter (isJudged r)
  metric : ∀ y ∈ o.results, y.metric.name = y.subject.name ∧
    r.value? y.subject = some y.metric.value
  verdict : ∀ y ∈ o.results, y.verdict = .critical ↔
    Alarm r b (c.rate item rates y.metric.value) y.subject y.metric.value
  worst : o.verdict = .critical ↔ ∃ y ∈ o.results, y.verdict = .critical

theorem judges_results (c : Cycle) (item : String) {r : Reading} {b : Baseline}
    {rates : RateState} {x : Float}
    (hx : ∀ v, observed? r b = some v → c.rate item rates v = .ok x) :
    c.Judges item r b rates ⟨item, results r b x⟩ where
  isFor := rfl
  subjects := subjects_filterMap r b x Attribute.all
  metric := by
    intro y hy
    obtain ⟨a, -, ha⟩ := List.mem_filterMap.1 hy
    obtain ⟨-, v, hv, rfl⟩ := result?_eq_some_iff.1 ha
    exact ⟨rfl, hv⟩
  verdict := by
    intro y hy
    obtain ⟨a, -, ha⟩ := List.mem_filterMap.1 hy
    obtain ⟨-, v, hv, rfl⟩ := result?_eq_some_iff.1 ha
    refine verdict_assessment ?_
    rintro rfl reference hb
    exact hx v (observed?_eq_some_iff.2 ⟨hv, reference, hb⟩)
  worst := Outcome.verdict_eq_critical_iff

/-- The check of an item whose device is missing finds nothing and observes nothing. Otherwise the
item is put off exactly if its counter is observed and gives no rate, and in all other cases its
outcome judges the reading. The rate state takes up the observation, if there is one, and nothing
else. -/
theorem checkItem_verdicts (c : Cycle) (item : String) (b : Baseline) (s : Section)
    (rates : RateState) :
    match s.get? item with
    | none => c.checkItem item b s rates = (.ok ⟨item, []⟩, rates)
    | some r =>
      ((∃ cause, c.Refused item r b rates cause ∧
          (c.checkItem item b s rates).1 = .error (.rate item cause)) ∨
        (¬∃ cause, c.Refused item r b rates cause) ∧
          ∃ o, (c.checkItem item b s rates).1 = .ok o ∧ c.Judges item r b rates o) ∧
      (c.checkItem item b s rates).2 =
        match observed? r b with
        | none => rates
        | some v => rates.insert (RateKey.ofTimeouts c.check item) ⟨c.now, v⟩ := by
  cases hs : s.get? item with
  | none => exact checkItem_of_absent c hs
  | some r =>
    refine ⟨?_, by simp [checkItem_snd, observation?, hs]; rfl⟩
    cases ho : observed? r b with
    | none =>
      rw [checkItem_of_quiet c 0 hs ho]
      refine .inr ⟨?_, _, rfl, judges_results c item fun v hv => nomatch ho.symm.trans hv⟩
      rintro ⟨cause, v, reference, hv, hb, -⟩
      exact nomatch ho.symm.trans (observed?_eq_some_iff.2 ⟨hv, reference, hb⟩)
    | some v =>
      obtain ⟨hv, reference, hb⟩ := observed?_eq_some_iff.1 ho
      rw [checkItem_of_observed c hs ho]
      cases hx : c.rate item rates v with
      | error cause => exact .inl ⟨cause, ⟨v, reference, hv, hb, hx⟩, rfl⟩
      | ok x =>
        refine .inr ⟨?_, _, rfl, judges_results c item ?_⟩
        · rintro ⟨cause, w, -, hw, -, hcause⟩
          cases hv.symm.trans hw
          exact nomatch hx.symm.trans hcause
        · intro w hw
          cases ho.symm.trans hw
          exact hx

end Cycle

end DiskHealth
