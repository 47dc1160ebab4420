import DiskHealth.Discovery
import DiskHealth.Proofs.Section.Merge
import Mathlib.Data.List.Sort

/-!
What discovery takes from a section. Of each device only the values of captured attributes count
(`get?_capture_reading`), so two sections give the same items exactly if they agree on these
(`discover_eq_iff`). Nothing else of a section leaves a trace in its items, and the section of the
captured values alone gives the same items again.
-/

namespace DiskHealth

namespace Section

/-- The section that holds what is captured of another one, and nothing else. -/
def captured (s : Section) : Section :=
  (BaselineStore.ofItems (discover s)).map fun b => { attributes := b }

variable {s s' : Section}

/-- The baseline of a device, which is empty for one without a reading. -/
theorem get?_capture_reading {device name : String} {v : Int64} :
    (Baseline.capture (s.reading device)).get? name = some v ↔
      ∃ a : Attribute, a.isCaptured = true ∧ a.name = name ∧ s.value? device name = some v := by
  rw [Baseline.get?_capture_eq_some_iff]
  constructor
  · rintro ⟨a, hcaptured, rfl, hv⟩
    exact ⟨a, hcaptured, rfl, (s.value?_eq_reading device a.name).trans hv⟩
  · rintro ⟨a, hcaptured, rfl, hv⟩
    exact ⟨a, hcaptured, rfl, (s.value?_eq_reading device a.name).symm.trans hv⟩

theorem isEmpty_capture_reading {device : String} :
    (Baseline.capture (s.reading device)).isEmpty = false ↔
      ∃ (a : Attribute) (v : Int64), a.isCaptured = true ∧ s.value? device a.name = some v := by
  rw [Baseline.isEmpty_capture_eq_false_iff]
  simp only [value?_eq_reading, Reading.value?]

theorem reading_of_get? {device : String} {r : Reading} (h : s.get? device = some r) :
    s.reading device = r := by
  rw [reading, h, Option.getD_some]

/-- A device without a reading has nothing to capture, so an item is told by its reading alone. -/
theorem mem_discover_iff_reading {d : DiscoveredItem} :
    d ∈ discover s ↔ (Baseline.capture (s.reading d.item)).isEmpty = false ∧
      d.parameters = Baseline.capture (s.reading d.item) := by
  rw [mem_discover_iff]
  constructor
  · rintro ⟨r, hr, hcaptured⟩
    rwa [reading_of_get? hr]
  · intro hcaptured
    cases hr : s.get? d.item with
    | none =>
      have hnone : s.reading d.item = ∅ := by rw [reading, hr, Option.getD_none]
      rw [hnone] at hcaptured
      exact nomatch hcaptured.1
    | some r =>
      rw [reading_of_get? hr] at hcaptured
      exact ⟨r, rfl, hcaptured⟩

theorem mem_items_iff {device : String} :
    device ∈ (discover s).map (·.item) ↔
      ∃ (a : Attribute) (v : Int64), a.isCaptured = true ∧ s.value? device a.name = some v := by
  rw [← isEmpty_capture_reading, List.mem_map]
  constructor
  · rintro ⟨d, hd, rfl⟩
    exact (mem_discover_iff_reading.1 hd).1
  · intro hcaptured
    exact ⟨⟨device, Baseline.capture (s.reading device)⟩,
      mem_discover_iff_reading.2 ⟨hcaptured, rfl⟩, rfl⟩

/-- The items stand in strictly ascending order of their devices. -/
theorem pairwise_discover (s : Section) : (discover s).Pairwise fun d e => d.item < e.item := by
  refine s.ascending.filterMap _ fun x y hlt d hd e he => ?_
  obtain ⟨-, rfl⟩ := DiscoveredItem.of?_eq_some_iff.1 hd
  obtain ⟨-, rfl⟩ := DiscoveredItem.of?_eq_some_iff.1 he
  exact hlt

theorem discover_eq_of_mem_iff (h : ∀ d, d ∈ discover s' ↔ d ∈ discover s) :
    discover s' = discover s := by
  have : Std.Irrefl fun d e : DiscoveredItem => d.item < e.item :=
    ⟨fun d => String.lt_irrefl d.item⟩
  have : Std.Antisymm fun d e : DiscoveredItem => d.item < e.item :=
    ⟨fun d e hde hed => absurd (String.lt_trans hde hed) (String.lt_irrefl d.item)⟩
  exact (pairwise_discover s').eq_of_mem_iff (pairwise_discover s) h

theorem capture_reading_eq_iff {device : String} :
    Baseline.capture (s'.reading device) = Baseline.capture (s.reading device) ↔
      ∀ a : Attribute, a.isCaptured = true →
        s'.value? device a.name = s.value? device a.name := by
  constructor
  · intro h a hcaptured
    have hvalue : ∀ t : Section, ∀ v, t.value? device a.name = some v ↔
        (Baseline.capture (t.reading device)).get? a.name = some v := by
      intro t v
      rw [get?_capture_reading]
      exact ⟨fun hv => ⟨a, hcaptured, rfl, hv⟩, fun ⟨_, _, _, hv⟩ => hv⟩
    apply Option.ext
    intro v
    rw [hvalue, hvalue, h]
  · intro h
    apply SortedMap.ext_get?
    intro name
    apply Option.ext
    intro v
    rw [get?_capture_reading, get?_capture_reading]
    constructor
    · rintro ⟨a, hcaptured, rfl, hv⟩
      exact ⟨a, hcaptured, rfl, (h a hcaptured).symm.trans hv⟩
    · rintro ⟨a, hcaptured, rfl, hv⟩
      exact ⟨a, hcaptured, rfl, (h a hcaptured).trans hv⟩

theorem mem_discover_of_capture {device name : String} {v : Int64}
    (h : (Baseline.capture (s.reading device)).get? name = some v) :
    ⟨device, Baseline.capture (s.reading device)⟩ ∈ discover s :=
  mem_discover_iff_reading.2 ⟨SortedMap.isEmpty_eq_false_iff.2 ⟨name, v, h⟩, rfl⟩

/-- Two sections have the same items exactly if they agree on the captured values. -/
theorem discover_eq_iff :
    discover s' = discover s ↔
      ∀ device (a : Attribute), a.isCaptured = true →
        s'.value? device a.name = s.value? device a.name := by
  constructor
  · intro h device
    have hstep : ∀ t u : Section, discover t = discover u → ∀ name v,
        (Baseline.capture (t.reading device)).get? name = some v →
          (Baseline.capture (u.reading device)).get? name = some v := by
      intro t u heq name v hv
      have hmem := mem_discover_of_capture hv
      rw [heq] at hmem
      rwa [← (mem_discover_iff_reading.1 hmem).2]
    apply capture_reading_eq_iff.1
    apply SortedMap.ext_get?
    intro name
    apply Option.ext
    intro v
    exact ⟨hstep s' s h name v, hstep s s' h.symm name v⟩
  · intro h
    apply discover_eq_of_mem_iff
    intro d
    have hcapture := capture_reading_eq_iff.2 (h d.item)
    rw [mem_discover_iff_reading, mem_discover_iff_reading, hcapture]

/-- The captured values of a section are those of the section of its items. -/
theorem value?_captured (s : Section) (device : String) {a : Attribute}
    (hcaptured : a.isCaptured = true) :
    s.captured.value? device a.name = s.value? device a.name := by
  apply Option.ext
  intro v
  have hbaseline : s.captured.value? device a.name = some v ↔
      ∃ b, (BaselineStore.ofItems (discover s)).get? device = some b ∧ b.get? a.name = some v := by
    rw [value?, captured, SortedMap.get?_map, Option.bind_map, Option.bind_eq_some_iff]
    rfl
  rw [hbaseline]
  constructor
  · rintro ⟨b, hb, hv⟩
    have hmem := BaselineStore.get?_ofItems_discover.1 hb
    have hparameters : b = Baseline.capture (s.reading device) :=
      (mem_discover_iff_reading.1 hmem).2
    rw [hparameters] at hv
    obtain ⟨-, -, -, hv⟩ := get?_capture_reading.1 hv
    exact hv
  · intro hv
    have hget := get?_capture_reading.2 ⟨a, hcaptured, rfl, hv⟩
    exact ⟨_, BaselineStore.get?_ofItems_discover.2 (mem_discover_of_capture hget), hget⟩

/-- Discovery has one item for every device with a captured attribute and none for another, in
strictly ascending order. An item holds the names of the captured attributes that its device
reported, with their values, and no other. So two sections have the same items exactly if they
agree on the captured values, whatever else they hold, and the section of nothing but these values
has the same items again. -/
theorem discover_captures (s : Section) :
    (∀ device, device ∈ (discover s).map (·.item) ↔
      ∃ (a : Attribute) (v : Int64), a.isCaptured = true ∧ s.value? device a.name = some v) ∧
    ((discover s).map (·.item)).Pairwise (· < ·) ∧
    (∀ d ∈ discover s, ∀ name v, d.parameters.get? name = some v ↔
      ∃ a : Attribute, a.isCaptured = true ∧ a.name = name ∧
        s.value? d.item name = some v) ∧
    (∀ s' : Section, discover s' = discover s ↔
      ∀ device (a : Attribute), a.isCaptured = true →
        s'.value? device a.name = s.value? device a.name) ∧
    discover s.captured = discover s := by
  refine ⟨fun device => mem_items_iff, List.pairwise_map.2 (pairwise_discover s), ?_,
    fun s' => discover_eq_iff, ?_⟩
  · intro d hd name v
    obtain ⟨-, hparameters⟩ := mem_discover_iff_reading.1 hd
    rw [hparameters, get?_capture_reading]
  · apply discover_eq_iff.2
    intro device a hcaptured
    exact value?_captured s device hcaptured

end Section

end DiskHealth
