import DiskHealth.Proofs.Check.Independence

/-!
Keys of counters under checks of different names. A key joins its parts by dots that the parts may
hold too, so where one name goes on from the other by a dot, the same text can be cut at either dot
(`ofTimeouts_eq_iff`). The main statement says when the counters of two devices are apart, and that
then neither check reads or overwrites the other's counter; two devices that share one are the
counterexample (`counters_shared`).
-/

namespace DiskHealth

/-- Two texts with a mark in them are equal if they are cut at the same mark, or if one is cut at a
later mark of the other. -/
theorem Text.append_mark_eq_iff {mark : Char} {xs ys xs' ys' : List Char} :
    xs ++ mark :: ys = xs' ++ mark :: ys' ↔
      (xs = xs' ∧ ys = ys') ∨ (∃ w, xs' = xs ++ mark :: w ∧ ys = w ++ mark :: ys') ∨
        ∃ w, xs = xs' ++ mark :: w ∧ ys' = w ++ mark :: ys := by
  constructor
  · intro h
    rcases List.append_eq_append_iff.1 h with ⟨w, hxs, hys⟩ | ⟨w, hxs, hys⟩
    · cases w with
      | nil =>
        rw [List.append_nil] at hxs
        exact .inl ⟨hxs.symm, (List.cons.inj hys).2⟩
      | cons c w =>
        rw [List.cons_append] at hys
        obtain ⟨rfl, htail⟩ := List.cons.inj hys
        exact .inr (.inl ⟨w, hxs, htail⟩)
    · cases w with
      | nil =>
        rw [List.append_nil] at hxs
        exact .inl ⟨hxs, (List.cons.inj hys).2.symm⟩
      | cons c w =>
        rw [List.cons_append] at hys
        obtain ⟨rfl, htail⟩ := List.cons.inj hys
        exact .inr (.inr ⟨w, hxs, htail⟩)
  · rintro (⟨rfl, rfl⟩ | ⟨w, rfl, rfl⟩ | ⟨w, rfl, rfl⟩) <;> simp

namespace RateKey

/-- The name `check'` goes on from `check` by a dot and a word, and `item` begins with that word and
a dot before `item'`. -/
def Overlap (check item check' item' : String) : Prop :=
  ∃ word, check' = check ++ "." ++ word ∧ item = word ++ "." ++ item'

theorem overlap_iff {check item check' item' : String} :
    Overlap check item check' item' ↔
      ∃ w, check'.toList = check.toList ++ '.' :: w ∧ item.toList = w ++ '.' :: item'.toList := by
  constructor
  · rintro ⟨word, rfl, rfl⟩
    exact ⟨word.toList, by simp, by simp⟩
  · rintro ⟨w, hcheck, hitem⟩
    refine ⟨String.ofList w, String.toList_inj.1 ?_, String.toList_inj.1 ?_⟩
    · simpa using hcheck
    · simpa using hitem

/-- Two keys are equal if their parts are, and where the parts overlap. -/
theorem ofTimeouts_eq_iff {check item check' item' : String} :
    ofTimeouts check item = ofTimeouts check' item' ↔
      (check = check' ∧ item = item') ∨ Overlap check item check' item' ∨
        Overlap check' item' check item := by
  have hlist : ofTimeouts check item = ofTimeouts check' item' ↔
      check.toList ++ '.' :: item.toList = check'.toList ++ '.' :: item'.toList := by
    unfold ofTimeouts render
    rw [String.append_left_inj, String.append_left_inj, ← String.toList_inj]
    simp
  rw [hlist, Text.append_mark_eq_iff, overlap_iff, overlap_iff, String.toList_inj, String.toList_inj]

/-- A name without a dot goes on from no other. -/
theorem not_overlap_of_notMem {check item check' item' : String} (h : '.' ∉ check'.toList) :
    ¬Overlap check item check' item' := by
  rw [overlap_iff]
  rintro ⟨w, hcheck, -⟩
  rw [hcheck] at h
  simp at h

/-- No name goes on from itself. -/
theorem not_overlap_self {check item item' : String} : ¬Overlap check item check item' := by
  rw [overlap_iff]
  rintro ⟨w, hcheck, -⟩
  have hlength := congrArg List.length hcheck
  simp at hlength

end RateKey

namespace Cycle

open RateKey (ofTimeouts Overlap)

section Counters

variable (c : Cycle) {key item : String}

/-- The check of an item leaves the counters under other keys as they are. -/
theorem get?_checkItem_of_ne (h : ofTimeouts c.check item ≠ key) (b : Baseline) (s : Section)
    (rates : RateState) : (c.checkItem item b s rates).2.get? key = rates.get? key := by
  rw [get?_checkItem]
  cases observation? s item b with
  | none => rfl
  | some v => exact if_neg h

/-- What an item gets does not depend on the counters under other keys. -/
theorem checkItem_insert_of_ne (h : ofTimeouts c.check item ≠ key) (b : Baseline) (s : Section)
    (rates : RateState) (counter : Counter) :
    (c.checkItem item b s (rates.insert key counter)).1 = (c.checkItem item b s rates).1 := by
  apply checkItem_fst_congr c rfl
  rw [SortedMap.get?_insert, if_neg h.symm]

/-- An item that observes its counter leaves the observation under its key. -/
theorem get?_checkItem_of_observed {b : Baseline} {s : Section} {v : Int64}
    (h : observation? s item b = some v) (rates : RateState) :
    (c.checkItem item b s rates).2.get? (ofTimeouts c.check item) = some ⟨c.now, v⟩ := by
  rw [get?_checkItem, h]
  exact if_pos rfl

end Counters

/-- The counters of two items under two checks are one exactly if the items overlap. Then what one
observes is what the other finds. Otherwise the check of one neither reads nor overwrites the
counter of the other. Items do not overlap under one check, nor under names without dots. -/
theorem counters_apart {check item check' item' : String} (hne : item ≠ item') :
    (ofTimeouts check item = ofTimeouts check' item' ↔
        Overlap check item check' item' ∨ Overlap check' item' check item) ∧
      (Overlap check item check' item' ∨ Overlap check' item' check item →
        ∀ now s b v rates, observation? s item b = some v →
          ((⟨check, now⟩ : Cycle).checkItem item b s rates).2.get? (ofTimeouts check' item') =
            some ⟨now, v⟩) ∧
      (¬(Overlap check item check' item' ∨ Overlap check' item' check item) →
        ∀ now s b rates,
          ((⟨check, now⟩ : Cycle).checkItem item b s rates).2.get? (ofTimeouts check' item') =
              rates.get? (ofTimeouts check' item') ∧
            ∀ counter,
              ((⟨check, now⟩ : Cycle).checkItem item b s
                  (rates.insert (ofTimeouts check' item') counter)).1 =
                ((⟨check, now⟩ : Cycle).checkItem item b s rates).1) ∧
      (check = check' ∨ ('.' ∉ check.toList ∧ '.' ∉ check'.toList) →
        ¬(Overlap check item check' item' ∨ Overlap check' item' check item)) := by
  have hkeys : ofTimeouts check item = ofTimeouts check' item' ↔
      Overlap check item check' item' ∨ Overlap check' item' check item := by
    rw [RateKey.ofTimeouts_eq_iff, or_iff_right fun h => hne h.2]
  refine ⟨hkeys, ?_, ?_, ?_⟩
  · intro hover now s b v rates ho
    rw [← hkeys.2 hover]
    exact get?_checkItem_of_observed ⟨check, now⟩ ho rates
  · intro hapart now s b rates
    have hdiff : ofTimeouts check item ≠ ofTimeouts check' item' := mt hkeys.1 hapart
    exact ⟨get?_checkItem_of_ne ⟨check, now⟩ hdiff b s rates,
      checkItem_insert_of_ne ⟨check, now⟩ hdiff b s rates⟩
  · rintro (rfl | ⟨hcheck, hcheck'⟩) (hover | hover)
    · exact RateKey.not_overlap_self hover
    · exact RateKey.not_overlap_self hover
    · exact RateKey.not_overlap_of_notMem hcheck' hover
    · exact RateKey.not_overlap_of_notMem hcheck hover

/-- Two disks under checks whose names have no dots do not overlap. -/
theorem counters_apart_named :
    "/dev/sda" ≠ "/dev/sdb" ∧ ¬(Overlap "smart_stats" "/dev/sda" "nightly" "/dev/sdb" ∨
        Overlap "nightly" "/dev/sdb" "smart_stats" "/dev/sda") ∧
      ofTimeouts "smart_stats" "/dev/sda" ≠ ofTimeouts "nightly" "/dev/sdb" := by
  have hne : "/dev/sda" ≠ "/dev/sdb" := by decide
  obtain ⟨hkeys, -, -, hdots⟩ := @counters_apart "smart_stats" _ "nightly" _ hne
  have hapart := hdots (.inr ⟨by decide, by decide⟩)
  exact ⟨hne, hapart, mt hkeys.1 hapart⟩

/-- Two disks with one counter: the name of the second check takes in the host of the first disk. -/
theorem counters_shared :
    "host1./dev/sda" ≠ "/dev/sda" ∧
      ofTimeouts "smart" "host1./dev/sda" = ofTimeouts "smart.host1" "/dev/sda" := by
  decide

end Cycle

end DiskHealth
