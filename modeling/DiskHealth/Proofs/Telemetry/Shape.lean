import DiskHealth.Discovery
import DiskHealth.Proofs.Telemetry.Pairs
import DiskHealth.Telemetry.Parse

/-!
The shape of parsed sections. Devices are words, names hold no blank, and a pair never stands
without the reallocated events that it belongs to. Every row of words keeps this, in either dialect
and in any order (`ParseState.Shaped.feed`), and so does laying one section over another, so it
holds of all telemetry.
-/

namespace DiskHealth

open Text (isBlank IsWord)

/-- A text without blanks, which may be empty. -/
def Text.NoBlank (text : String) : Prop :=
  ∀ c ∈ text.toList, isBlank c = false

theorem Attribute.noBlank_name (a : Attribute) : Text.NoBlank a.name := by
  have hall : a.name.toList.all (fun c => !isBlank c) = true := by cases a <;> decide
  intro c hc
  simpa using List.all_eq_true.1 hall c hc

namespace Reading

structure Shaped (r : Reading) : Prop where
  names : ∀ name v, r.get? name = some v → Text.NoBlank name
  events : r.reallocatedEvents.isSome → (r.value? .reallocatedEvents).isSome

namespace Shaped

theorem empty : Shaped ∅ where
  names _ _ hv := nomatch hv
  events hpair := nomatch hpair

variable {r : Reading} (hr : r.Shaped) {name : String} (hname : Text.NoBlank name) (value : Int64)

include hr hname

theorem set : (r.set name value).Shaped where
  names := by
    intro other v hv
    rw [get?_set] at hv
    split at hv
    · rename_i heq
      exact heq ▸ hname
    · exact hr.names other v hv
  events := by
    intro hpair
    have hevents := hr.events hpair
    rw [value?, get?_set]
    split
    · rfl
    · exact hevents

theorem setIfAbsent : (r.setIfAbsent name value).Shaped := by
  unfold Reading.setIfAbsent
  split
  · exact hr
  · exact hr.set hname value

end Shaped

theorem Shaped.merge {lower upper : Reading} (hl : lower.Shaped) (hu : upper.Shaped) :
    (lower.merge upper).Shaped where
  names := by
    intro name v hv
    rw [get?_merge, Option.or_eq_some_iff] at hv
    rcases hv with hv | ⟨-, hv⟩
    · exact hu.names name v hv
    · exact hl.names name v hv
  events := by
    intro hpair
    rw [value?, get?_merge, Option.isSome_or]
    rw [Reading.merge, Option.isSome_or, Bool.or_eq_true] at hpair
    rw [Bool.or_eq_true]
    exact hpair.imp hu.events hl.events

end Reading

namespace Section

structure Shaped (s : Section) : Prop where
  devices : ∀ device r, s.get? device = some r → IsWord device.toList
  readings : ∀ device r, s.get? device = some r → r.Shaped

namespace Shaped

theorem empty : Shaped ∅ where
  devices _ _ hr := nomatch hr
  readings _ _ hr := nomatch hr

theorem reading {s : Section} (hs : s.Shaped) (device : String) : (s.reading device).Shaped := by
  unfold Section.reading
  cases hr : s.get? device with
  | none => exact .empty
  | some r => exact hs.readings device r hr

theorem modify {s : Section} (hs : s.Shaped) {device : String} (hdevice : IsWord device.toList)
    {f : Reading → Reading} (hf : ∀ r : Reading, r.Shaped → (f r).Shaped) :
    (s.modify device f).Shaped where
  devices := by
    intro other r hr
    rw [get?_modify] at hr
    split at hr
    · rename_i heq
      exact heq ▸ hdevice
    · exact hs.devices other r hr
  readings := by
    intro other r hr
    rw [get?_modify] at hr
    split at hr
    · cases hr
      exact hf _ (hs.reading device)
    · exact hs.readings other r hr

theorem merge {lower upper : Section} (hl : lower.Shaped) (hu : upper.Shaped) :
    (lower.merge upper).Shaped where
  devices := by
    intro device r hr
    rw [get?_merge] at hr
    split at hr
    · rename_i u hupper
      exact hu.devices device u hupper
    · exact hl.devices device r hr
  readings := by
    intro device r hr
    rw [get?_merge] at hr
    split at hr
    · rename_i u hupper
      have hshaped := hu.readings device u hupper
      cases hr
      cases hlower : lower.get? device with
      | none => exact hshaped
      | some l => exact (hl.readings device l hlower).merge hshaped
    · exact hl.readings device r hr

end Shaped

end Section

namespace Telemetry

/-! ### What one row keeps -/

/-- The words of a row are words. -/
def Row.OfWords (row : Row) : Prop :=
  ∀ word ∈ row, IsWord word.toList

theorem TabularLine.ofRow?_eq_some {row : Row} {line : TabularLine} (h : ofRow? row = some line) :
    line.device ∈ row ∧ line.name ∈ row := by
  unfold ofRow? at h
  split at h
  · cases h
    simp
  · cases h

theorem TabularLine.shaped_record (line : TabularLine) (hname : Text.NoBlank line.name)
    {r : Reading} (hr : r.Shaped) : (line.record r).Shaped := by
  unfold record
  split
  · exact hr
  · split
    · rename_i a _
      have hset := hr.set a.noBlank_name (intOrZero a.name line.raw)
      dsimp only
      split
      · rename_i hevents
        subst hevents
        refine ⟨hset.names, fun _ => ?_⟩
        rw [Reading.value?, Reading.get?, Reading.set, SortedMap.get?_insert_self]
        rfl
      · exact hset
    · exact hr.setIfAbsent hname _

theorem Tabular.shaped_feed {s : Section} (hs : s.Shaped) {row : Row} (hrow : row.OfWords) :
    (feed s row).Shaped := by
  unfold feed
  split
  · rename_i line hline
    obtain ⟨hdevice, hname⟩ := TabularLine.ofRow?_eq_some hline
    exact hs.modify (hrow _ hdevice) fun r => line.shaped_record (hrow _ hname).2
  · exact hs

namespace KeyValue

/-- A key holds no blank where every blank of its line is a space. -/
theorem noBlank_key {line key : String} {value : Int64}
    (hline : ∀ c ∈ line.toList, c = ' ' ∨ isBlank c = false)
    (h : parsePair line = .ok (key, value)) : Text.NoBlank key := by
  by_cases hcolon : ':' ∈ line.toList
  · obtain ⟨before, after, hcut, hbefore⟩ := List.eq_append_cons_of_mem hcolon
    obtain ⟨w, hpair, -⟩ := parsePair_of_colon hbefore hcut
    cases hpair.symm.trans h
    intro c hc
    rw [keyOf, String.toList_ofList, List.mem_map] at hc
    obtain ⟨d, hd, rfl⟩ := hc
    split
    · rfl
    · rename_i hspace
      have hmem : d ∈ line.toList := by
        rw [hcut]
        exact List.mem_append_left _ (Text.mem_of_mem_trim hd)
      exact (hline d hmem).resolve_left hspace
  · cases (parsePair_eq_error_iff.2 ⟨hcolon, rfl⟩).symm.trans h

theorem eq_space_or_noBlank {row : Row} (hrow : row.OfWords) :
    ∀ c ∈ (" ".intercalate row).toList, c = ' ' ∨ isBlank c = false := by
  intro c hc
  rw [String.toList_intercalate] at hc
  rcases Text.mem_intercalate hc with hc | ⟨word, hword, hc⟩
  · exact .inl (by simpa using hc)
  · obtain ⟨text, htext, rfl⟩ := List.mem_map.1 hword
    exact .inr ((hrow text htext).2 c hc)

structure State.Shaped (state : State) : Prop where
  readings : state.readings.Shaped
  current : ∀ device ∈ state.current, IsWord device.toList

theorem State.Shaped.feed {state : State} (hs : state.Shaped) {row : Row} (hrow : row.OfWords) :
    (feed state row).Shaped := by
  unfold KeyValue.feed
  split
  · exact hs
  · rename_i first rest
    have hfirst := hrow first List.mem_cons_self
    split
    · exact ⟨hs.readings.modify hfirst fun _ hr => hr, by simpa using hfirst⟩
    · split
      · exact hs
      · rename_i device hcurrent
        split
        · rename_i key value hpair
          have hkey := noBlank_key (eq_space_or_noBlank hrow) hpair
          have hset : ∀ r : Reading, r.Shaped → (r.set key value).Shaped :=
            fun r hr => hr.set hkey value
          exact ⟨hs.readings.modify (hs.current device hcurrent) hset, hs.current⟩
        · exact hs

end KeyValue

structure ParseState.Shaped (state : ParseState) : Prop where
  tabular : state.tabular.Shaped
  keyValue : state.keyValue.Shaped

namespace ParseState.Shaped

theorem initial : Shaped {} where
  tabular := .empty
  keyValue := ⟨.empty, fun _ hdevice => nomatch hdevice⟩

theorem feed {state : ParseState} (hs : state.Shaped) {row : Row} (hrow : row.OfWords) :
    (state.feed row).Shaped := by
  unfold ParseState.feed
  split
  · exact ⟨Tabular.shaped_feed hs.tabular hrow, hs.keyValue⟩
  · exact ⟨hs.tabular, hs.keyValue.feed hrow⟩
  · exact hs

theorem foldl {table : Table} (htable : ∀ row ∈ table, Row.OfWords row) {state : ParseState}
    (hs : state.Shaped) : (table.foldl ParseState.feed state).Shaped := by
  induction table generalizing state with
  | nil => exact hs
  | cons row rest ih =>
    apply ih
    · exact fun other hother => htable other (List.mem_cons_of_mem _ hother)
    · exact hs.feed (htable row List.mem_cons_self)

end ParseState.Shaped

/-! ### All telemetry -/

namespace Table

theorem ofWords_rowOf {line : List Char} {row : Row} (h : row ∈ rowOf line) : row.OfWords := by
  have hrow : row = Text.fields line := by
    unfold rowOf at h
    split at h
    · cases h
    · exact List.mem_singleton.1 h
  subst hrow
  intro word hword
  obtain ⟨w, hw, rfl⟩ := List.mem_map.1 hword
  rw [String.toList_ofList]
  exact ⟨Text.words_ne_nil hw, fun c hc => Text.isBlank_of_mem_words hw hc⟩

theorem ofWords_sectionRows {name : List Char} {inside : Bool} {lines : List (List Char)}
    {row : Row} (h : row ∈ sectionRows name inside lines) : row.OfWords := by
  induction lines generalizing inside with
  | nil => cases h
  | cons line rest ih =>
    unfold sectionRows at h
    split at h
    · exact ih h
    · rcases List.mem_append.1 h with h | h
      · split at h
        · exact ofWords_rowOf h
        · cases h
      · exact ih h

theorem ofWords_ofSection {raw name : String} {row : Row} (h : row ∈ ofSection raw name) :
    row.OfWords := by
  unfold ofSection at h
  dsimp only at h
  split at h
  · exact ofWords_sectionRows h
  · obtain ⟨line, -, hline⟩ := List.mem_flatMap.1 h
    exact ofWords_rowOf hline

end Table

theorem shaped_parseOutput (raw : String) : (parseOutput raw).Shaped := by
  have hrows : ∀ row ∈ Table.ofSection raw Table.smartSection, row.OfWords :=
    fun row => Table.ofWords_ofSection
  have hrun := ParseState.Shaped.initial.foldl hrows
  exact hrun.tabular.merge hrun.keyValue.readings

/-- In the section of any telemetry the identifiers of devices are words without blanks, no name of
an attribute holds a blank, and a reading with a normalized pair holds the reallocated events. So
the items to be checked are words, each the only one of its own text. -/
theorem parseOutput_wellShaped (raw : String) :
    (∀ device r, (parseOutput raw).get? device = some r →
      (device ≠ "" ∧ ∀ c ∈ device.toList, isBlank c = false) ∧
      (∀ name v, r.get? name = some v → ∀ c ∈ name.toList, isBlank c = false) ∧
      (r.reallocatedEvents ≠ none → r.value? .reallocatedEvents ≠ none)) ∧
    ∀ d ∈ discover (parseOutput raw),
      d.item ≠ "" ∧ (∀ c ∈ d.item.toList, isBlank c = false) ∧
        Text.fields d.item.toList = [d.item] := by
  have hshaped := shaped_parseOutput raw
  constructor
  · intro device r hr
    have hdevice := hshaped.devices device r hr
    have hreading := hshaped.readings device r hr
    refine ⟨⟨?_, hdevice.2⟩, hreading.names, ?_⟩
    · simpa using hdevice.1
    · simpa [Option.isSome_iff_ne_none] using hreading.events
  · intro d hd
    obtain ⟨r, hr, -⟩ := mem_discover_iff.1 hd
    have hitem := hshaped.devices d.item r hr
    refine ⟨by simpa using hitem.1, hitem.2, ?_⟩
    rw [Text.fields, Text.words_of_isWord hitem]
    simp

end Telemetry

end DiskHealth
