import DiskHealth.Proofs.Check.Verdicts

/-!
Checks of many items over one rate state. The counters of two items have different keys, so an item
finds its own counter as it was before the cycle, whatever was checked in between. The main
statement says so of whole cycles: every item gets what it gets alone (`checkItems_fst`), in any
order, and the rate state takes up the observations of the items and nothing else
(`get?_checkItems_of_mem`, `get?_checkItems_of_quiet`).
-/

namespace DiskHealth

namespace RateKey

/-- Under one check, two items with one key are the same. -/
theorem ofTimeouts_injective {check a b : String} (h : ofTimeouts check a = ofTimeouts check b) :
    a = b := by
  unfold ofTimeouts render at h
  have hitem := (String.append_left_inj _).1 ((String.append_left_inj _).1 h)
  exact (String.append_right_inj _).1 hitem

end RateKey

namespace Cycle

variable (c : Cycle) {s : Section}

/-- What an item gets depends on its baseline, its reading and its counter only. -/
theorem checkItem_fst_congr {item : String} {b : Baseline} {s' : Section} {rates rates' : RateState}
    (hs : s'.get? item = s.get? item)
    (hrates : rates'.get? (RateKey.ofTimeouts c.check item) =
      rates.get? (RateKey.ofTimeouts c.check item)) :
    (c.checkItem item b s' rates').1 = (c.checkItem item b s rates).1 := by
  have hrate : ∀ v, c.rate item rates' v = c.rate item rates v := by
    intro v
    simp [rate, RateState.observe, hrates]
  cases hr : s.get? item with
  | none => rw [checkItem_of_absent c hr, checkItem_of_absent c (hs.trans hr)]
  | some r =>
    cases ho : observed? r b with
    | none => rw [checkItem_of_quiet c 0 hr ho, checkItem_of_quiet c 0 (hs.trans hr) ho]
    | some v =>
      rw [checkItem_of_observed c hr ho, checkItem_of_observed c (hs.trans hr) ho, hrate]
      cases c.rate item rates v <;> rfl

/-- The counters after the check of an item. -/
theorem get?_checkItem (item : String) (b : Baseline) (rates : RateState) (key : String) :
    (c.checkItem item b s rates).2.get? key =
      match observation? s item b with
      | none => rates.get? key
      | some v =>
        if RateKey.ofTimeouts c.check item = key then some ⟨c.now, v⟩ else rates.get? key := by
  rw [checkItem_snd]
  cases observation? s item b with
  | none => rfl
  | some v => exact RateState.get?_observe rates _ key c.now v

/-! ### Many items -/

section CheckItems

variable {l : List (String × Baseline)} {rates : RateState}

/-- The counter under a key that no item observes stays as it is. -/
theorem get?_checkItems_of_quiet {key : String}
    (h : ∀ e ∈ l, RateKey.ofTimeouts c.check e.1 = key → observation? s e.1 e.2 = none) :
    (c.checkItems s l rates).2.get? key = rates.get? key := by
  induction l generalizing rates with
  | nil => rfl
  | cons e rest ih =>
    show (c.checkItems s rest (c.checkItem e.1 e.2 s rates).2).2.get? key = _
    rw [ih fun e' he' => h e' (List.mem_cons_of_mem _ he'), get?_checkItem]
    have hhead := h e List.mem_cons_self
    cases ho : observation? s e.1 e.2 with
    | none => rfl
    | some v =>
      have hkey : RateKey.ofTimeouts c.check e.1 ≠ key := fun hk => nomatch ho.symm.trans (hhead hk)
      simp [hkey]

/-- The counter of another item stays as it is while an item is not among those checked. -/
theorem get?_checkItems_of_notMem {item : String} (h : item ∉ l.map (·.1)) :
    (c.checkItems s l rates).2.get? (RateKey.ofTimeouts c.check item) =
      rates.get? (RateKey.ofTimeouts c.check item) := by
  refine get?_checkItems_of_quiet c ?_
  intro e he hkey
  exact absurd (List.mem_map.2 ⟨e, he, RateKey.ofTimeouts_injective hkey⟩) h

/-- An item that observes its counter leaves the observation under its key. -/
theorem get?_checkItems_of_mem (hl : (l.map (·.1)).Nodup) {e : String × Baseline} (he : e ∈ l)
    {v : Int64} (ho : observation? s e.1 e.2 = some v) :
    (c.checkItems s l rates).2.get? (RateKey.ofTimeouts c.check e.1) = some ⟨c.now, v⟩ := by
  induction l generalizing rates with
  | nil => exact nomatch he
  | cons head rest ih =>
    obtain ⟨hnot, hrest⟩ := List.nodup_cons.1 hl
    show (c.checkItems s rest (c.checkItem head.1 head.2 s rates).2).2.get? _ = _
    rcases List.mem_cons.1 he with rfl | he
    · rw [get?_checkItems_of_notMem c hnot, get?_checkItem, ho]
      simp
    · exact ih hrest he

/-- Every item gets what it gets alone from the state before the cycle. -/
theorem checkItems_fst (hl : (l.map (·.1)).Nodup) :
    (c.checkItems s l rates).1 = l.map fun e => (c.checkItem e.1 e.2 s rates).1 := by
  induction l generalizing rates with
  | nil => rfl
  | cons head rest ih =>
    obtain ⟨hnot, hrest⟩ := List.nodup_cons.1 hl
    show (c.checkItem head.1 head.2 s rates).1 ::
      (c.checkItems s rest (c.checkItem head.1 head.2 s rates).2).1 = _
    rw [ih hrest, List.map_cons]
    congr 1
    refine List.map_congr_left fun e he => checkItem_fst_congr c rfl ?_
    have hne : RateKey.ofTimeouts c.check head.1 ≠ RateKey.ofTimeouts c.check e.1 := by
      intro hk
      exact hnot (List.mem_map.2 ⟨e, he, (RateKey.ofTimeouts_injective hk).symm⟩)
    rw [get?_checkItem]
    cases observation? s head.1 head.2 <;> simp [hne]

/-- The order in which items are checked does not matter for the state. -/
theorem checkItems_snd_of_perm {l' : List (String × Baseline)} (hp : l'.Perm l)
    (hl : (l.map (·.1)).Nodup) : (c.checkItems s l' rates).2 = (c.checkItems s l rates).2 := by
  have hl' : (l'.map (·.1)).Nodup := (hp.map _).nodup_iff.2 hl
  refine SortedMap.ext_get? fun key => ?_
  by_cases hq : ∀ e ∈ l, RateKey.ofTimeouts c.check e.1 = key → observation? s e.1 e.2 = none
  · rw [get?_checkItems_of_quiet c hq,
      get?_checkItems_of_quiet c fun e he => hq e (hp.mem_iff.1 he)]
  · simp only [Classical.not_forall] at hq
    obtain ⟨e, he, rfl, hne⟩ := hq
    obtain ⟨v, ho⟩ := Option.ne_none_iff_exists'.1 hne
    rw [get?_checkItems_of_mem c hl he ho, get?_checkItems_of_mem c hl' (hp.mem_iff.2 he) ho]

end CheckItems

/-! ### A whole cycle -/

section CheckAll

variable {store : BaselineStore} {rates : RateState}

theorem nodup_selected (store : BaselineStore) (only : Option String) :
    ((selected store only).map (·.1)).Nodup := by
  cases only with
  | none => exact store.nodup_keys
  | some item => exact store.nodup_keys.sublist (List.filter_sublist.map _)

theorem selected_some (store : BaselineStore) (item : String) :
    selected store (some item) = (store.get? item).toList.map (item, ·) :=
  store.filter_toList item

theorem mem_selected_iff {only : Option String} {item : String} {b : Baseline} :
    (item, b) ∈ selected store only ↔
      store.get? item = some b ∧ ∀ other, only = some other → item = other := by
  cases only with
  | none => simp [selected, SortedMap.mem_toList_iff]
  | some other => simp [selected, SortedMap.mem_toList_iff]

theorem checkAll_none : c.checkAll store s none rates = c.checkItems s store.toList rates := rfl

theorem checkAll_of_stored {item : String} {b : Baseline} (h : store.get? item = some b) :
    c.checkAll store s (some item) rates =
      ([(c.checkItem item b s rates).1], (c.checkItem item b s rates).2) := by
  unfold checkAll
  rw [selected_some, h]
  rfl

theorem checkAll_of_unknown {item : String} (h : store.get? item = none) :
    c.checkAll store s (some item) rates = ([.error (.unknownItem item)], rates) := by
  unfold checkAll
  rw [selected_some, h]
  rfl

/-- A cycle leaves the rate state that the checks of its items leave. -/
theorem checkAll_snd (only : Option String) :
    (c.checkAll store s only rates).2 = (c.checkItems s (selected store only) rates).2 := by
  cases only with
  | none => rfl
  | some item =>
    cases h : store.get? item with
    | none => rw [checkAll_of_unknown c h, selected_some, h]; rfl
    | some b => rw [checkAll_of_stored c h, selected_some, h]; rfl

/-- The entries of a cycle are those of its items, unless there is no such item. -/
theorem mem_checkAll_iff {only : Option String} {x : ItemCheck} :
    x ∈ (c.checkAll store s only rates).1 ↔
      (∃ e ∈ selected store only, (c.checkItem e.1 e.2 s rates).1 = x) ∨
      ∃ item, only = some item ∧ store.get? item = none ∧ x = .error (.unknownItem item) := by
  cases only with
  | none =>
    rw [checkAll_none, checkItems_fst c store.nodup_keys, List.mem_map]
    simp [selected]
  | some item =>
    cases h : store.get? item with
    | none => simp [checkAll_of_unknown c h, selected_some, h]
    | some b => simp [checkAll_of_stored c h, selected_some, h, eq_comm]

/-- In a cycle every item of the store has one entry, in the order of the store, which is what the
check of the item alone gives from the state before the cycle. It is also the only entry of a cycle
limited to the item, and depends on the item's own baseline, reading and counter only. The order
does not matter, neither for the entries nor for the state afterwards, which differs from the state
before in the observations of the checked items only. -/
theorem checkAll_independent (c : Cycle) (store : BaselineStore) (s : Section)
    (rates : RateState) :
    (c.checkAll store s none rates).1 =
        store.toList.map (fun e => (c.checkItem e.1 e.2 s rates).1) ∧
      (∀ item b, store.get? item = some b →
        (c.checkAll store s (some item) rates).1 = [(c.checkItem item b s rates).1]) ∧
      (∀ item, store.get? item = none →
        c.checkAll store s (some item) rates = ([.error (.unknownItem item)], rates)) ∧
      (∀ item b s' rates', s'.get? item = s.get? item →
        rates'.get? (RateKey.ofTimeouts c.check item) =
          rates.get? (RateKey.ofTimeouts c.check item) →
        (c.checkItem item b s' rates').1 = (c.checkItem item b s rates).1) ∧
      (∀ l, l.Perm store.toList → c.checkItems s l rates =
        (l.map (fun e => (c.checkItem e.1 e.2 s rates).1), (c.checkAll store s none rates).2)) ∧
      ∀ only,
        (∀ e ∈ selected store only, ∀ v, observation? s e.1 e.2 = some v →
          (c.checkAll store s only rates).2.get? (RateKey.ofTimeouts c.check e.1) =
            some ⟨c.now, v⟩) ∧
        ∀ key, (∀ e ∈ selected store only, RateKey.ofTimeouts c.check e.1 = key →
            observation? s e.1 e.2 = none) →
          (c.checkAll store s only rates).2.get? key = rates.get? key := by
  refine ⟨checkItems_fst c store.nodup_keys, ?_, fun item h => checkAll_of_unknown c h, ?_, ?_, ?_⟩
  · intro item b h
    rw [checkAll_of_stored c h]
  · intro item b s' rates' hs hrates
    exact checkItem_fst_congr c hs hrates
  · intro l hp
    have hl : (l.map (·.1)).Nodup := (hp.map _).nodup_iff.2 store.nodup_keys
    exact Prod.ext (checkItems_fst c hl) (checkItems_snd_of_perm c hp store.nodup_keys)
  · intro only
    rw [checkAll_snd]
    exact ⟨fun e he v ho => get?_checkItems_of_mem c (nodup_selected store only) he ho,
      fun key h => get?_checkItems_of_quiet c h⟩

end CheckAll

end Cycle

end DiskHealth
