import DiskHealth.Keyed

/-!
Finite maps from text to values, held as a list of entries with strictly ascending keys. Keys are
compared by code point, which is also the order of their UTF-8 bytes. The view of a map is `get?`:
it says what every operation does (`get?_insert`, `get?_union`, `get?_ofList`), and two maps with
the same view are equal (`ext_get?`).
-/

namespace DiskHealth

/-- A finite map with text keys, in strictly ascending order of the keys. -/
structure SortedMap (α : Type u) where
  /-- The entries, in ascending order of their keys. -/
  toList : List (String × α)
  /-- Each key is below every later one. -/
  ascending : toList.Pairwise (fun a b => a.1 < b.1)

namespace SortedMap

open Keyed (find?)

variable {α : Type u} {β : Type v}

instance [DecidableEq α] : DecidableEq (SortedMap α) := fun a b =>
  if h : a.toList = b.toList then isTrue (by cases a; cases b; cases h; rfl)
  else isFalse fun e => h (e ▸ rfl)

instance [Repr α] : Repr (SortedMap α) := ⟨fun m n => reprPrec m.toList n⟩

def empty : SortedMap α := ⟨[], .nil⟩

instance : EmptyCollection (SortedMap α) := ⟨empty⟩

instance : Inhabited (SortedMap α) := ⟨empty⟩

def size (m : SortedMap α) : Nat :=
  m.toList.length

def isEmpty (m : SortedMap α) : Bool :=
  m.toList.isEmpty

def get? (m : SortedMap α) (key : String) : Option α :=
  find? key m.toList

def contains (m : SortedMap α) (key : String) : Bool :=
  (m.get? key).isSome

def keys (m : SortedMap α) : List String :=
  m.toList.map (·.1)

/-- An ascending list of entries with the value of one key set. -/
def place (key : String) (value : α) : List (String × α) → List (String × α)
  | [] => [(key, value)]
  | (k, v) :: rest =>
    if key < k then (key, value) :: (k, v) :: rest
    else if k = key then (key, value) :: rest
    else (k, v) :: place key value rest

theorem mem_place {key : String} {value : α} {l : List (String × α)} {e : String × α}
    (h : e ∈ place key value l) : e = (key, value) ∨ e ∈ l := by
  induction l with
  | nil => simpa [place] using h
  | cons head rest ih =>
    obtain ⟨k, v⟩ := head
    unfold place at h
    split at h
    · simpa using h
    · split at h
      · rcases List.mem_cons.1 h with h | h
        · exact .inl h
        · exact .inr (List.mem_cons_of_mem _ h)
      · rcases List.mem_cons.1 h with h | h
        · exact .inr (h ▸ List.mem_cons_self)
        · exact (ih h).imp_right (List.mem_cons_of_mem _)

theorem pairwise_place (key : String) (value : α) {l : List (String × α)}
    (h : l.Pairwise (fun a b => a.1 < b.1)) :
    (place key value l).Pairwise (fun a b => a.1 < b.1) := by
  induction l with
  | nil => simp [place]
  | cons head rest ih =>
    obtain ⟨k, v⟩ := head
    obtain ⟨hhead, hrest⟩ := List.pairwise_cons.1 h
    unfold place
    split
    · rename_i hlt
      refine List.pairwise_cons.2 ⟨fun e he => ?_, h⟩
      rcases List.mem_cons.1 he with rfl | he
      · exact hlt
      · exact String.lt_trans hlt (hhead e he)
    · split
      · rename_i heq
        exact List.pairwise_cons.2 ⟨fun e he => heq ▸ hhead e he, hrest⟩
      · rename_i hnlt hne
        refine List.pairwise_cons.2 ⟨fun e he => ?_, ih hrest⟩
        rcases mem_place he with rfl | he
        · rcases Decidable.em (k < key) with hk | hk
          · exact hk
          · exact absurd (String.le_antisymm (String.not_lt.1 hnlt) (String.not_lt.1 hk)) hne
        · exact hhead e he

/-- The map with the value of one key set, whether the key was there or not. -/
def insert (m : SortedMap α) (key : String) (value : α) : SortedMap α :=
  ⟨place key value m.toList, pairwise_place key value m.ascending⟩

/-- The map of a list of entries. Of two entries with one key, the later counts. -/
def ofList (entries : List (String × α)) : SortedMap α :=
  entries.foldl (fun m e => m.insert e.1 e.2) ∅

/-- The map with the value of one key put through `f`, which is given nothing if there is none. -/
def update (m : SortedMap α) (key : String) (f : Option α → α) : SortedMap α :=
  m.insert key (f (m.get? key))

/-- The entries of two maps, where `join` combines the two values of a key that both have. -/
def unionWith (join : α → α → α) (m n : SortedMap α) : SortedMap α :=
  n.toList.foldl
    (fun acc e => acc.update e.1 fun old => (old.map (join · e.2)).getD e.2) m

/-- The entries of two maps, where the second map's values win. -/
def union (m n : SortedMap α) : SortedMap α :=
  n.toList.foldl (fun acc e => acc.insert e.1 e.2) m

/-- The map with every value put through `f`. -/
def map (f : α → β) (m : SortedMap α) : SortedMap β :=
  ⟨m.toList.map fun e => (e.1, f e.2), List.pairwise_map.2 m.ascending⟩

/-! ### The view of a map -/

theorem ext_toList {m n : SortedMap α} (h : m.toList = n.toList) : m = n := by
  cases m; cases n; cases h; rfl

@[simp] theorem get?_empty (key : String) : (∅ : SortedMap α).get? key = none := rfl

theorem find?_place (key other : String) (value : α) (l : List (String × α)) :
    find? other (place key value l) = if key = other then some value else find? other l := by
  induction l with
  | nil => simp [place, find?]
  | cons head rest ih =>
    obtain ⟨k, v⟩ := head
    unfold place
    split
    · simp [find?]
    · split
      · rename_i hk
        subst hk
        by_cases h : k = other <;> simp [find?, h]
      · rename_i hne
        simp only [find?, ih]
        by_cases h : k = other
        · subst h
          simp [Ne.symm hne]
        · simp [h]

theorem get?_insert (m : SortedMap α) (key other : String) (value : α) :
    (m.insert key value).get? other = if key = other then some value else m.get? other :=
  find?_place key other value m.toList

@[simp] theorem get?_insert_self (m : SortedMap α) (key : String) (value : α) :
    (m.insert key value).get? key = some value := by
  simp [get?_insert]

theorem get?_update (m : SortedMap α) (key other : String) (f : Option α → α) :
    (m.update key f).get? other = if key = other then some (f (m.get? key)) else m.get? other :=
  get?_insert m key other _

theorem find?_eq_none_of_lt {key : String} {l : List (String × α)} (h : ∀ e ∈ l, key < e.1) :
    find? key l = none := by
  induction l with
  | nil => rfl
  | cons head rest ih =>
    obtain ⟨k, v⟩ := head
    have hk : k ≠ key := fun e => String.lt_irrefl key (by simpa [e] using h (k, v))
    simp [find?, hk, ih fun e he => h e (List.mem_cons_of_mem _ he)]

theorem mem_of_find? {key : String} {value : α} {l : List (String × α)}
    (h : find? key l = some value) : (key, value) ∈ l := by
  induction l with
  | nil => simp [find?] at h
  | cons head rest ih =>
    obtain ⟨k, v⟩ := head
    unfold find? at h
    split at h
    · rename_i hk
      cases h
      exact hk ▸ List.mem_cons_self
    · exact List.mem_cons_of_mem _ (ih h)

theorem find?_of_mem {key : String} {value : α} {l : List (String × α)}
    (hl : l.Pairwise (fun a b => a.1 < b.1)) (h : (key, value) ∈ l) :
    find? key l = some value := by
  induction l with
  | nil => simp at h
  | cons head rest ih =>
    obtain ⟨k, v⟩ := head
    obtain ⟨hhead, hrest⟩ := List.pairwise_cons.1 hl
    rcases List.mem_cons.1 h with h | h
    · cases h; simp [find?]
    · have hk : k ≠ key := fun e => String.lt_irrefl key (by simpa [e] using hhead _ h)
      simp [find?, hk, ih hrest h]

/-- An entry is listed exactly if its key has its value. -/
theorem mem_toList_iff {m : SortedMap α} {key : String} {value : α} :
    (key, value) ∈ m.toList ↔ m.get? key = some value :=
  ⟨find?_of_mem m.ascending, mem_of_find?⟩

theorem eq_of_find?_eq {l₁ l₂ : List (String × α)}
    (h₁ : l₁.Pairwise (fun a b => a.1 < b.1)) (h₂ : l₂.Pairwise (fun a b => a.1 < b.1))
    (h : ∀ key, find? key l₁ = find? key l₂) : l₁ = l₂ := by
  induction l₁ generalizing l₂ with
  | nil =>
    cases l₂ with
    | nil => rfl
    | cons head rest => simpa [find?] using h head.1
  | cons head₁ rest₁ ih =>
    obtain ⟨k₁, v₁⟩ := head₁
    cases l₂ with
    | nil => simpa [find?] using h k₁
    | cons head₂ rest₂ =>
      obtain ⟨k₂, v₂⟩ := head₂
      obtain ⟨hhead₁, hrest₁⟩ := List.pairwise_cons.1 h₁
      obtain ⟨hhead₂, hrest₂⟩ := List.pairwise_cons.1 h₂
      have hk : k₁ = k₂ := by
        refine String.le_antisymm (String.not_lt.1 fun hlt => ?_) (String.not_lt.1 fun hlt => ?_)
        · have hnone : find? k₂ ((k₁, v₁) :: rest₁) = none :=
            find?_eq_none_of_lt fun e he => by
              rcases List.mem_cons.1 he with rfl | he
              · exact hlt
              · exact String.lt_trans hlt (hhead₁ e he)
          rw [h k₂] at hnone
          simp [find?] at hnone
        · have hnone : find? k₁ ((k₂, v₂) :: rest₂) = none :=
            find?_eq_none_of_lt fun e he => by
              rcases List.mem_cons.1 he with rfl | he
              · exact hlt
              · exact String.lt_trans hlt (hhead₂ e he)
          rw [← h k₁] at hnone
          simp [find?] at hnone
      subst hk
      have hv : v₁ = v₂ := by simpa [find?] using h k₁
      subst hv
      congr 1
      refine ih hrest₁ hrest₂ fun key => ?_
      by_cases hkey : k₁ = key
      · subst hkey
        rw [find?_eq_none_of_lt hhead₁, find?_eq_none_of_lt hhead₂]
      · simpa [find?, hkey] using h key

/-- Two maps that give every key the same value are equal. -/
theorem ext_get? {m n : SortedMap α} (h : ∀ key, m.get? key = n.get? key) : m = n :=
  ext_toList (eq_of_find?_eq m.ascending n.ascending h)

theorem find?_append (key : String) (l₁ l₂ : List (String × α)) :
    find? key (l₁ ++ l₂) = (find? key l₁).or (find? key l₂) := by
  induction l₁ with
  | nil => simp [find?]
  | cons e l ih => by_cases h : e.1 = key <;> simp [find?, h, ih]

theorem get?_foldl_insert (entries : List (String × α)) (m : SortedMap α) (key : String) :
    (entries.foldl (fun m e => m.insert e.1 e.2) m).get? key =
      (find? key entries.reverse).or (m.get? key) := by
  induction entries generalizing m with
  | nil => simp [find?]
  | cons head rest ih =>
    obtain ⟨k, v⟩ := head
    rw [List.foldl_cons, ih, get?_insert, List.reverse_cons, find?_append]
    cases find? key rest.reverse <;> by_cases h : k = key <;> simp [find?, h]

/-- The last entry with a key gives its value. -/
theorem get?_ofList (entries : List (String × α)) (key : String) :
    (ofList entries).get? key = find? key entries.reverse := by
  simp [ofList, get?_foldl_insert]

theorem ofList_eq_empty_iff {entries : List (String × α)} : ofList entries = ∅ ↔ entries = [] := by
  rcases List.eq_nil_or_concat entries with rfl | ⟨before, last, rfl⟩
  · exact iff_of_true rfl rfl
  · refine iff_of_false (fun h => ?_) (by simp)
    have hlast := congrArg (fun m : SortedMap α => m.get? last.1) h
    simp [ofList] at hlast

theorem find?_reverse {key : String} {l : List (String × α)}
    (hl : l.Pairwise (fun a b => a.1 < b.1)) : find? key l.reverse = find? key l := by
  induction l with
  | nil => rfl
  | cons head rest ih =>
    obtain ⟨k, v⟩ := head
    obtain ⟨hhead, hrest⟩ := List.pairwise_cons.1 hl
    rw [List.reverse_cons, find?_append, ih hrest]
    by_cases h : k = key
    · subst h
      simp [find?, find?_eq_none_of_lt hhead]
    · simp [find?, h]

theorem get?_union (m n : SortedMap α) (key : String) :
    (m.union n).get? key = (n.get? key).or (m.get? key) := by
  rw [union, get?_foldl_insert, find?_reverse n.ascending]
  rfl

theorem get?_foldl_update (join : α → α → α) {entries : List (String × α)}
    (he : entries.Pairwise (fun a b => a.1 < b.1)) (m : SortedMap α) (key : String) :
    (entries.foldl (fun acc e => acc.update e.1 fun old => (old.map (join · e.2)).getD e.2)
        m).get? key =
      match find? key entries with
      | some new => some ((m.get? key).map (join · new) |>.getD new)
      | none => m.get? key := by
  induction entries generalizing m with
  | nil => simp [find?]
  | cons head rest ih =>
    obtain ⟨k, v⟩ := head
    obtain ⟨hhead, hrest⟩ := List.pairwise_cons.1 he
    rw [List.foldl_cons, ih hrest, get?_update]
    by_cases h : k = key
    · subst h
      simp [find?, find?_eq_none_of_lt hhead]
    · simp [find?, h]

theorem get?_unionWith (join : α → α → α) (m n : SortedMap α) (key : String) :
    (m.unionWith join n).get? key =
      match n.get? key with
      | some new => some ((m.get? key).map (join · new) |>.getD new)
      | none => m.get? key :=
  get?_foldl_update join n.ascending m key

theorem find?_map (f : α → β) (key : String) (l : List (String × α)) :
    find? key (l.map fun e => (e.1, f e.2)) = (find? key l).map f := by
  induction l with
  | nil => rfl
  | cons e rest ih => by_cases h : e.1 = key <;> simp [find?, h, ih]

theorem get?_map (f : α → β) (m : SortedMap α) (key : String) :
    (m.map f).get? key = (m.get? key).map f :=
  find?_map f key m.toList

theorem nodup_keys (m : SortedMap α) : (m.toList.map (·.1)).Nodup := by
  refine List.pairwise_map.2 (m.ascending.imp ?_)
  intro a b hlt heq
  exact String.lt_irrefl b.1 (heq ▸ hlt)

theorem filter_key {key : String} {l : List (String × α)}
    (hl : l.Pairwise (fun a b => a.1 < b.1)) :
    l.filter (·.1 == key) = (find? key l).toList.map (key, ·) := by
  induction l with
  | nil => rfl
  | cons head rest ih =>
    obtain ⟨k, v⟩ := head
    obtain ⟨hhead, hrest⟩ := List.pairwise_cons.1 hl
    by_cases h : k = key
    · subst h
      simp [find?, ih hrest, find?_eq_none_of_lt hhead]
    · simp [find?, h, ih hrest]

/-- The entries with one key are the one that the map has for it, or none. -/
theorem filter_toList (m : SortedMap α) (key : String) :
    m.toList.filter (·.1 == key) = (m.get? key).toList.map (key, ·) :=
  filter_key m.ascending

theorem isEmpty_eq_false_iff {m : SortedMap α} :
    m.isEmpty = false ↔ ∃ key value, m.get? key = some value := by
  simp only [isEmpty, List.isEmpty_eq_false_iff_exists_mem, Prod.exists, mem_toList_iff]

/-- A key that is listed with one value only, as often as it may be, has that value. -/
theorem find?_of_unique {key : String} {value : α} {l : List (String × α)}
    (h : (key, value) ∈ l) (hl : ∀ other, (key, other) ∈ l → other = value) :
    find? key l = some value := by
  induction l with
  | nil => cases h
  | cons head rest ih =>
    obtain ⟨k, v⟩ := head
    by_cases hk : k = key
    · subst hk
      simp [find?, hl v List.mem_cons_self]
    · have hrest : (key, value) ∈ rest := by simpa [Ne.symm hk] using h
      simp only [find?, hk, if_false]
      exact ih hrest fun other hother => hl other (List.mem_cons_of_mem _ hother)

/-- The map of entries of which no two give one key different values holds these entries. -/
theorem get?_ofList_eq_some_iff {entries : List (String × α)}
    (h : ∀ key v w, (key, v) ∈ entries → (key, w) ∈ entries → v = w) {key : String} {value : α} :
    (ofList entries).get? key = some value ↔ (key, value) ∈ entries := by
  rw [get?_ofList]
  constructor
  · intro hfind
    exact List.mem_reverse.1 (mem_of_find? hfind)
  · intro hmem
    refine find?_of_unique (List.mem_reverse.2 hmem) fun other hother => ?_
    exact h key other value (List.mem_reverse.1 hother) hmem

/-- The map of a map's own entries is the map. -/
theorem ofList_toList (m : SortedMap α) : ofList m.toList = m :=
  ext_get? fun key => by rw [get?_ofList, find?_reverse m.ascending, get?]

end SortedMap

end DiskHealth
