import DiskHealth.Proofs.Check.Independence
import DiskHealth.Proofs.Files.Stored
import Mathlib.Data.List.Forall2

/-!
Checks of the readings that the baselines were taken from. Discovery captures an attribute with the
value that the check finds again, so nothing has grown (`Alarm.own`): what is left are the alarms of
a reading against itself, and the rate of the counter. And discovery keeps only devices with
something to capture, all of which is judged, so every item has results unless it is put off.
-/

namespace DiskHealth

open Files

theorem Attribute.ne_temperature_of_isCaptured {a : Attribute} (h : a.isCaptured = true) :
    a ≠ .temperature := by
  rintro rfl
  cases h

namespace Cycle

/-- The alarms that a reading may raise against its own baseline. -/
inductive OwnAlarm (r : Reading) : Attribute → Int64 → Prop
  | spare {value threshold : Int64} (reported : r.value? .availableSpare = some value)
      (given : r.get? Attribute.spareThresholdName = some threshold) (low : value < threshold) :
      OwnAlarm r .availableSpare value
  | pair {value : Int64} {pair : NormalizedPair}
      (reported : r.value? .reallocatedEvents = some value)
      (given : r.reallocatedEvents = some pair) (low : pair.value ≤ pair.threshold) :
      OwnAlarm r .reallocatedEvents value
  | rate {value : Int64} (reported : r.value? .commandTimeoutCounter = some value) :
      OwnAlarm r .commandTimeoutCounter value

/-- What the check of an item may find in the reading that its baseline is from: its counter gives
no rate, or there are results, with no other alarms. -/
inductive Spared (c : Cycle) (item : String) (r : Reading) (rates : RateState) : ItemCheck → Prop
  | pending {cause : RateError} (refused : c.Refused item r (Baseline.capture r) rates cause) :
      Spared c item r rates (.error (.rate item cause))
  | evaluated {o : Outcome} (isFor : o.item = item) (results : o.results ≠ [])
      (alarms : ∀ y ∈ o.results, y.verdict = .critical →
        OwnAlarm r y.subject y.metric.value) : Spared c item r rates (.ok o)

theorem Alarm.own {r : Reading} {rate : Except RateError Float} {a : Attribute} {value : Int64}
    (hvalue : r.value? a = some value) (h : Alarm r (Baseline.capture r) rate a value) :
    OwnAlarm r a value := by
  cases h with
  | spare given low => exact .spare hvalue given low
  | pair _ given low => exact .pair hvalue given low
  | growth _ _ _ known grown =>
    obtain ⟨-, hreference⟩ := Baseline.value?_capture_eq_some_iff.1 known
    cases hvalue.symm.trans hreference
    exact absurd grown Int64.lt_irrefl
  | rate => exact .rate hvalue

variable {r : Reading}

theorem results_capture_ne_nil (h : (Baseline.capture r).isEmpty = false) (x : Float) :
    results r (Baseline.capture r) x ≠ [] := by
  obtain ⟨a, v, hcaptured, hv⟩ := Baseline.isEmpty_capture_eq_false_iff.1 h
  intro hnil
  have hjudged := results_eq_nil_iff.1 hnil a
  have hne := Attribute.ne_temperature_of_isCaptured hcaptured
  simp [isJudged, hne, hv] at hjudged

theorem ownAlarm_of_critical {x : Float} {y : AttributeResult}
    (hy : y ∈ results r (Baseline.capture r) x) (hcritical : y.verdict = .critical) :
    OwnAlarm r y.subject y.metric.value := by
  obtain ⟨a, -, ha⟩ := List.mem_filterMap.1 hy
  obtain ⟨-, v, hv, rfl⟩ := result?_eq_some_iff.1 ha
  have halarm : Alarm r (Baseline.capture r) (.ok x) a v :=
    (verdict_assessment fun _ _ _ => rfl).1 hcritical
  exact halarm.own hv

theorem checkItem_capture (c : Cycle) {s : Section} {item : String} (rates : RateState)
    (hs : s.get? item = some r) (h : (Baseline.capture r).isEmpty = false) :
    c.Spared item r rates (c.checkItem item (Baseline.capture r) s rates).1 := by
  have hresults : ∀ x, c.Spared item r rates (.ok ⟨item, results r (Baseline.capture r) x⟩) :=
    fun x => .evaluated rfl (results_capture_ne_nil h x) fun y => ownAlarm_of_critical
  cases ho : observed? r (Baseline.capture r) with
  | none =>
    rw [checkItem_of_quiet c 0 hs ho]
    exact hresults 0
  | some v =>
    rw [checkItem_of_observed c hs ho]
    cases hx : c.rate item rates v with
    | error cause =>
      obtain ⟨hv, reference, hb⟩ := observed?_eq_some_iff.1 ho
      exact .pending ⟨v, reference, hv, hb, hx⟩
    | ok x => exact hresults x

/-- A section is checked against the baselines that were discovered in it, which are the same once
they were saved and loaded. Every item is put off for its counter or has results, and the only
critical ones are an available spare below the threshold of the same reading, reallocated events
with a failing pair, and the counter. -/
theorem checkAll_discovered (c : Cycle) (s : Section) (rates : RateState) :
    let store := BaselineStore.ofItems (discover s)
    (∀ (t u : Tree) (r : Refusals) (path : String), r.reason? (.read path) = none →
      t.run r (BaselineStore.save path store) = (.ok (), u) →
      u.run r (BaselineStore.load path) = (.ok store, u)) ∧
    List.Forall₂ (fun e x => ∃ r, s.get? e.1 = some r ∧ c.Spared e.1 r rates x) store.toList
      (c.checkAll store s none rates).1 ∧
    ∀ item,
      (∃ r x, s.get? item = some r ∧ c.Spared item r rates x ∧
        (c.checkAll store s (some item) rates).1 = [x]) ∨
      store.get? item = none ∧
        (c.checkAll store s (some item) rates).1 = [.error (.unknownItem item)] := by
  intro store
  have hspared : ∀ item b, store.get? item = some b →
      ∃ r, s.get? item = some r ∧ c.Spared item r rates (c.checkItem item b s rates).1 := by
    intro item b hb
    obtain ⟨r, hr, hcaptured, rfl⟩ :=
      mem_discover_iff.1 (BaselineStore.get?_ofItems_discover.1 hb)
    exact ⟨r, hr, checkItem_capture c rates hr hcaptured⟩
  refine ⟨fun t u r path => BaselineStore.load_of_save, ?_, fun item => ?_⟩
  · rw [checkAll_none, checkItems_fst c store.nodup_keys, List.forall₂_map_right_iff,
      List.forall₂_same]
    exact fun e he => hspared e.1 e.2 (SortedMap.mem_toList_iff.1 he)
  · cases hb : store.get? item with
    | none => exact .inr ⟨rfl, by rw [checkAll_of_unknown c hb]⟩
    | some b =>
      obtain ⟨r, hr, hx⟩ := hspared item b hb
      exact .inl ⟨r, _, hr, hx, by rw [checkAll_of_stored c hb]⟩

end Cycle

end DiskHealth
