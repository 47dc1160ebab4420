import DiskHealth.Reading

/-!
Baselines: the values of a device's attributes frozen at discovery. Capturing a reading keeps
exactly its captured attributes (`get?_capture_eq_some_iff`).
-/

namespace DiskHealth

/-- Attribute values frozen at discovery, by attribute name. -/
abbrev Baseline := SortedMap Int64

namespace Baseline

/-- The frozen value of a recognized attribute. -/
def value? (b : Baseline) (a : Attribute) : Option Int64 :=
  b.get? a.name

/-- The entry of an attribute that is captured and was reported. -/
def captured? (r : Reading) (a : Attribute) : Option (String × Int64) :=
  if a.isCaptured then (r.value? a).map fun v => (a.name, v) else none

/-- The captured attributes of a reading, with their values. -/
def capture (r : Reading) : Baseline :=
  .ofList (Attribute.all.filterMap (captured? r))

theorem captured?_eq_some_iff {r : Reading} {a : Attribute} {name : String} {v : Int64} :
    captured? r a = some (name, v) ↔ a.isCaptured = true ∧ a.name = name ∧ r.value? a = some v := by
  unfold captured?
  cases a.isCaptured <;> simp
  grind

/-- A baseline holds the attributes of its reading that are captured, and nothing else. -/
theorem get?_capture_eq_some_iff {r : Reading} {name : String} {v : Int64} :
    (capture r).get? name = some v ↔
      ∃ a, a.isCaptured = true ∧ a.name = name ∧ r.value? a = some v := by
  have hmem : ∀ {key w}, (key, w) ∈ Attribute.all.filterMap (captured? r) ↔
      ∃ a, a.isCaptured = true ∧ a.name = key ∧ r.value? a = some w := by
    intro key w
    simp only [List.mem_filterMap, Attribute.mem_all, true_and, captured?_eq_some_iff]
  rw [capture, SortedMap.get?_ofList_eq_some_iff, hmem]
  intro key w x hw hx
  obtain ⟨a, -, ha, hwa⟩ := hmem.1 hw
  obtain ⟨b, -, hb, hxb⟩ := hmem.1 hx
  cases Attribute.name_injective (ha.trans hb.symm)
  exact Option.some.inj (hwa.symm.trans hxb)

theorem value?_capture_eq_some_iff {r : Reading} {a : Attribute} {v : Int64} :
    (capture r).value? a = some v ↔ a.isCaptured = true ∧ r.value? a = some v := by
  rw [value?, get?_capture_eq_some_iff]
  constructor
  · rintro ⟨b, hcaptured, hname, hv⟩
    cases Attribute.name_injective hname
    exact ⟨hcaptured, hv⟩
  · rintro ⟨hcaptured, hv⟩
    exact ⟨a, hcaptured, rfl, hv⟩

theorem isEmpty_capture_eq_false_iff {r : Reading} :
    (capture r).isEmpty = false ↔ ∃ a v, a.isCaptured = true ∧ r.value? a = some v := by
  simp only [SortedMap.isEmpty_eq_false_iff, get?_capture_eq_some_iff]
  constructor
  · rintro ⟨-, v, a, hcaptured, -, hv⟩
    exact ⟨a, v, hcaptured, hv⟩
  · rintro ⟨a, v, hcaptured, hv⟩
    exact ⟨a.name, v, a, hcaptured, rfl, hv⟩

end Baseline

end DiskHealth
