import DiskHealth.Reading

/-!
Sections laid over each other. A section is seen through its devices, their values and their pairs:
two sections with one view are equal (`ext_view`), and merging lays one view over the other, so the
laws of merging are those of `or` (`merge_assoc`, `merge_self`). The main statement says that
merging is a monoid in which the upper section wins.
-/

namespace DiskHealth

namespace Section

/-- The value of a device's attribute. -/
def value? (s : Section) (device name : String) : Option Int64 :=
  (s.get? device).bind (·.get? name)

/-- The normalized pair of a device. -/
def pair? (s : Section) (device : String) : Option NormalizedPair :=
  (s.get? device).bind (·.reallocatedEvents)

theorem value?_eq_reading (s : Section) (device name : String) :
    s.value? device name = (s.reading device).get? name := by
  unfold value? reading
  cases s.get? device <;> rfl

theorem pair?_eq_reading (s : Section) (device : String) :
    s.pair? device = (s.reading device).reallocatedEvents := by
  unfold pair? reading
  cases s.get? device <;> rfl

@[simp] theorem contains_empty (device : String) : (∅ : Section).contains device = false := rfl

@[simp] theorem value?_empty (device name : String) : (∅ : Section).value? device name = none := rfl

@[simp] theorem pair?_empty (device : String) : (∅ : Section).pair? device = none := rfl

/-! ### One reading changed -/

section Modify

variable (s : Section) (device other name : String) (f : Reading → Reading)

theorem contains_modify :
    (s.modify device f).contains other = (device == other || s.contains other) := by
  unfold SortedMap.contains
  rw [get?_modify]
  by_cases h : device = other <;> simp [h]

theorem value?_modify : (s.modify device f).value? other name =
    if device = other then (f (s.reading device)).get? name else s.value? other name := by
  unfold value?
  rw [get?_modify]
  split <;> rfl

theorem pair?_modify : (s.modify device f).pair? other =
    if device = other then (f (s.reading device)).reallocatedEvents else s.pair? other := by
  unfold pair?
  rw [get?_modify]
  split <;> rfl

theorem contains_ensure :
    (s.ensure device).contains other = (device == other || s.contains other) :=
  contains_modify s device other id

theorem value?_ensure : (s.ensure device).value? other name = s.value? other name := by
  rw [ensure, value?_modify]
  split
  · rename_i h
    rw [← h, value?_eq_reading, id_eq]
  · rfl

theorem pair?_ensure : (s.ensure device).pair? other = s.pair? other := by
  rw [ensure, pair?_modify]
  split
  · rename_i h
    rw [← h, pair?_eq_reading, id_eq]
  · rfl

end Modify

/-! ### Sections laid over each other -/

section Merge

variable (lower upper : Section) (device name : String)

theorem contains_merge :
    (lower.merge upper).contains device = (lower.contains device || upper.contains device) := by
  unfold SortedMap.contains
  rw [get?_merge]
  cases upper.get? device <;> simp

theorem value?_merge : (lower.merge upper).value? device name =
    (upper.value? device name).or (lower.value? device name) := by
  unfold value?
  rw [get?_merge]
  cases upper.get? device with
  | none => rfl
  | some u =>
    cases lower.get? device with
    | none => simp
    | some l => exact Reading.get?_merge l u name

theorem pair?_merge :
    (lower.merge upper).pair? device = (upper.pair? device).or (lower.pair? device) := by
  unfold pair?
  rw [get?_merge]
  cases upper.get? device with
  | none => rfl
  | some u =>
    cases lower.get? device with
    | none => simp
    | some l => rfl

end Merge

/-- Two sections with the same devices, values and pairs are equal. -/
theorem ext_view {s t : Section} (hdevices : ∀ device, s.contains device = t.contains device)
    (hvalues : ∀ device name, s.value? device name = t.value? device name)
    (hpairs : ∀ device, s.pair? device = t.pair? device) : s = t := by
  refine SortedMap.ext_get? fun device => ?_
  have hd := hdevices device
  have hv := hvalues device
  have hp := hpairs device
  unfold SortedMap.contains at hd
  unfold value? at hv
  unfold pair? at hp
  cases hs : s.get? device with
  | none =>
    rw [hs] at hd
    have ht : t.get? device = none := by simpa using hd.symm
    rw [ht]
  | some r =>
    rw [hs] at hd hv hp
    obtain ⟨r', ht⟩ := Option.isSome_iff_exists.1 hd.symm
    rw [ht] at hv hp ⊢
    exact congrArg some (Reading.ext_get? hv hp)

/-! ### Laws of merging -/

section Laws

variable (a b c : Section)

theorem merge_assoc : (a.merge b).merge c = a.merge (b.merge c) := by
  apply ext_view
  · intro device
    simp only [contains_merge, Bool.or_assoc]
  · intro device name
    simp only [value?_merge, Option.or_assoc]
  · intro device
    simp only [pair?_merge, Option.or_assoc]

theorem empty_merge : (∅ : Section).merge a = a := by
  apply ext_view
  · intro device
    rw [contains_merge, contains_empty, Bool.false_or]
  · intro device name
    rw [value?_merge, value?_empty, Option.or_none]
  · intro device
    rw [pair?_merge, pair?_empty, Option.or_none]

theorem merge_empty : a.merge ∅ = a := rfl

theorem merge_self : a.merge a = a := by
  apply ext_view
  · intro device
    rw [contains_merge, Bool.or_self]
  · intro device name
    rw [value?_merge, Option.or_self]
  · intro device
    rw [pair?_merge, Option.or_self]

/-- Of two sections laid over each other, the devices are those of either. A value is the upper
section's if it has one and otherwise the lower section's, and so is a pair. The order in which
sections are put together does not matter, only which lies over which; the empty section changes
nothing, and neither does a section laid over itself. -/
theorem merge_rightBiased :
    (∀ device, (a.merge b).contains device ↔ a.contains device ∨ b.contains device) ∧
    (∀ device name, (a.merge b).value? device name =
      (b.value? device name).or (a.value? device name)) ∧
    (∀ device, (a.merge b).pair? device = (b.pair? device).or (a.pair? device)) ∧
    (a.merge b).merge c = a.merge (b.merge c) ∧
    (∅ : Section).merge a = a ∧ a.merge ∅ = a ∧ a.merge a = a := by
  refine ⟨?_, value?_merge a b, pair?_merge a b, merge_assoc a b c, empty_merge a, merge_empty a,
    merge_self a⟩
  intro device
  rw [contains_merge, Bool.or_eq_true]

end Laws

end Section

end DiskHealth
