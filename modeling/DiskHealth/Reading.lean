import DiskHealth.Attribute
import DiskHealth.SortedMap

/-!
Readings: what one device reported, and sections, which hold the readings of all devices by their
identifiers. Merging lays one reading or section over another; the upper one's values win
(`get?_merge`).
-/

namespace DiskHealth

/-- A normalized value beside the threshold that its vendor sets for it. -/
structure NormalizedPair where
  value : Int64
  /-- The value at or below which the vendor calls the attribute failing. -/
  threshold : Int64
  deriving DecidableEq, Repr

/-- Whether the vendor calls the attribute failing. -/
def NormalizedPair.isFailing (p : NormalizedPair) : Bool :=
  p.value ≤ p.threshold

/-- What one device reported. -/
structure Reading where
  /-- The values by attribute name, recognized or not. -/
  attributes : SortedMap Int64 := ∅
  /-- The normalized pair of the reallocated events, if the device gave one. -/
  reallocatedEvents : Option NormalizedPair := none
  deriving DecidableEq, Repr

namespace Reading

instance : EmptyCollection Reading := ⟨{}⟩

instance : Inhabited Reading := ⟨∅⟩

def size (r : Reading) : Nat :=
  r.attributes.size

def isEmpty (r : Reading) : Bool :=
  r.attributes.isEmpty

/-- The value of any attribute by its name. -/
def get? (r : Reading) (name : String) : Option Int64 :=
  r.attributes.get? name

/-- Whether an attribute of that name was reported. -/
def contains (r : Reading) (name : String) : Bool :=
  r.attributes.contains name

/-- The value of a recognized attribute. -/
def value? (r : Reading) (a : Attribute) : Option Int64 :=
  r.get? a.name

/-- The reading with the value of one attribute set. -/
def set (r : Reading) (name : String) (value : Int64) : Reading :=
  { r with attributes := r.attributes.insert name value }

/-- The reading with the value of one attribute set, unless it has one. -/
def setIfAbsent (r : Reading) (name : String) (value : Int64) : Reading :=
  if r.contains name then r else r.set name value

/-- The reading with another laid over it; a missing pair of the other leaves the pair as it is. -/
def merge (lower upper : Reading) : Reading :=
  { attributes := lower.attributes.union upper.attributes
    reallocatedEvents := upper.reallocatedEvents.or lower.reallocatedEvents }

theorem get?_set (r : Reading) (name other : String) (value : Int64) :
    (r.set name value).get? other = if name = other then some value else r.get? other :=
  SortedMap.get?_insert r.attributes name other value

theorem get?_setIfAbsent (r : Reading) (name other : String) (value : Int64) :
    (r.setIfAbsent name value).get? other =
      if name = other then (r.get? name).or (some value) else r.get? other := by
  unfold setIfAbsent contains SortedMap.contains
  split
  · rename_i h
    split
    · rename_i heq
      subst heq
      obtain ⟨v, hv⟩ := Option.isSome_iff_exists.1 h
      simp [get?, hv]
    · rfl
  · rename_i h
    rw [get?_set]
    split
    · simp only [Bool.not_eq_true, Option.isSome_eq_false_iff, Option.isNone_iff_eq_none] at h
      simp [get?, h]
    · rfl

theorem get?_merge (lower upper : Reading) (name : String) :
    (lower.merge upper).get? name = (upper.get? name).or (lower.get? name) :=
  SortedMap.get?_union lower.attributes upper.attributes name

/-- Two readings with the same values and the same pair are equal. -/
theorem ext_get? {r s : Reading} (h : ∀ name, r.get? name = s.get? name)
    (hp : r.reallocatedEvents = s.reallocatedEvents) : r = s := by
  cases r
  cases s
  cases hp
  congr
  exact SortedMap.ext_get? h

end Reading

/-- The readings of the devices, by their identifiers. -/
abbrev Section := SortedMap Reading

namespace Section

/-- The reading of a device, empty if it has none. -/
def reading (s : Section) (device : String) : Reading :=
  (s.get? device).getD ∅

/-- The section with the reading of a device put through `f`; a missing reading counts as empty and
is there afterwards. -/
def modify (s : Section) (device : String) (f : Reading → Reading) : Section :=
  s.update device fun r => f (r.getD ∅)

/-- The section with a reading for the device, empty if it had none. -/
def ensure (s : Section) (device : String) : Section :=
  s.modify device id

/-- The section with another laid over it, device by device. -/
def merge (lower upper : Section) : Section :=
  lower.unionWith Reading.merge upper

theorem get?_modify (s : Section) (device other : String) (f : Reading → Reading) :
    (s.modify device f).get? other =
      if device = other then some (f (s.reading device)) else s.get? other :=
  SortedMap.get?_update s device other _

theorem get?_merge (lower upper : Section) (device : String) :
    (lower.merge upper).get? device =
      match upper.get? device with
      | some r => some ((lower.get? device).map (Reading.merge · r) |>.getD r)
      | none => lower.get? device := by
  have h := SortedMap.get?_unionWith Reading.merge lower upper device
  cases hu : upper.get? device <;> simpa [merge, hu] using h

end Section

end DiskHealth
