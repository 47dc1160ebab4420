import DiskHealth.Baseline

/-!
Discovery: one item for every device that has something to capture, in order of the identifiers, and
the store that keeps their baselines (`mem_discover_iff`, `BaselineStore.get?_ofItems_discover`).
Later checks compare against these frozen values and not against absolute limits, since vendors
disagree on what a bad raw value is.
-/

namespace DiskHealth

/-- A device to be checked, with its frozen values. -/
structure DiscoveredItem where
  item : String
  parameters : Baseline
  deriving DecidableEq, Repr

/-- The item of a device, if its reading holds a captured attribute. -/
def DiscoveredItem.of? (device : String) (r : Reading) : Option DiscoveredItem :=
  let parameters := Baseline.capture r
  if parameters.isEmpty then none else some ⟨device, parameters⟩

/-- The items of a section, in order of their devices. -/
def discover (s : Section) : List DiscoveredItem :=
  s.toList.filterMap fun e => DiscoveredItem.of? e.1 e.2

/-- The baselines of the items to be checked, by item. -/
abbrev BaselineStore := SortedMap Baseline

/-- The store of discovered items, which holds nothing else. -/
def BaselineStore.ofItems (items : List DiscoveredItem) : BaselineStore :=
  .ofList (items.map fun d => (d.item, d.parameters))

theorem DiscoveredItem.of?_eq_some_iff {device : String} {r : Reading} {d : DiscoveredItem} :
    of? device r = some d ↔
      (Baseline.capture r).isEmpty = false ∧ d = ⟨device, Baseline.capture r⟩ := by
  unfold of?
  cases h : SortedMap.isEmpty (Baseline.capture r) with
  | true => simp [h]
  | false =>
    simp only [h, Bool.false_eq_true, if_false, Option.some.injEq, true_and]
    exact eq_comm

/-- The items of a section are its devices with something to capture, with what is captured. -/
theorem mem_discover_iff {s : Section} {d : DiscoveredItem} :
    d ∈ discover s ↔ ∃ r, s.get? d.item = some r ∧
      (Baseline.capture r).isEmpty = false ∧ d.parameters = Baseline.capture r := by
  unfold discover
  simp only [List.mem_filterMap, DiscoveredItem.of?_eq_some_iff]
  constructor
  · rintro ⟨⟨device, r⟩, hmem, hcaptured, rfl⟩
    exact ⟨r, SortedMap.mem_toList_iff.1 hmem, hcaptured, rfl⟩
  · rintro ⟨r, hr, hcaptured, hparameters⟩
    exact ⟨(d.item, r), SortedMap.mem_toList_iff.2 hr, hcaptured, by rw [← hparameters]⟩

/-- The store of the discovered items has their baselines, item by item. -/
theorem BaselineStore.get?_ofItems_discover {s : Section} {item : String} {b : Baseline} :
    (ofItems (discover s)).get? item = some b ↔ ⟨item, b⟩ ∈ discover s := by
  have hmem : ∀ {key c}, (key, c) ∈ (discover s).map (fun d => (d.item, d.parameters)) ↔
      ⟨key, c⟩ ∈ discover s := by
    intro key c
    rw [List.mem_map]
    constructor
    · rintro ⟨d, hd, heq⟩
      cases heq
      exact hd
    · exact fun hd => ⟨_, hd, rfl⟩
  rw [ofItems, SortedMap.get?_ofList_eq_some_iff, hmem]
  intro key c d hc hd
  obtain ⟨r, hr, -, hparameters⟩ := mem_discover_iff.1 (hmem.1 hc)
  obtain ⟨r', hr', -, hparameters'⟩ := mem_discover_iff.1 (hmem.1 hd)
  cases hr.symm.trans hr'
  exact hparameters.trans hparameters'.symm

end DiskHealth
