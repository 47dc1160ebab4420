import DiskHealth.Proofs.Section.Merge
import DiskHealth.Telemetry.Parse

/-!
Telemetry in both dialects at once. The rows of one dialect never touch the state of the other, so a
single pass over a table gives what two passes give, one over the tabular rows and one over the
key/value rows (`foldl_feed`), laid over each other. The main statement is the view of the section
that results, whatever the order in which the rows of the two dialects alternate.
-/

namespace DiskHealth

namespace Telemetry

/-- The rows with thirteen words or more. -/
def tabularRows (table : Table) : Table :=
  table.filter fun row => 13 ≤ row.length

/-- The rows with three to six words. -/
def keyValueRows (table : Table) : Table :=
  table.filter fun row => 3 ≤ row.length ∧ row.length ≤ 6

theorem feed_tabular (state : ParseState) {row : Row} (h : 13 ≤ row.length) :
    state.feed row = { state with tabular := Tabular.feed state.tabular row } := by
  simp [ParseState.feed, Dialect.ofRow?, Tabular.minColumns, h]

theorem feed_keyValue (state : ParseState) {row : Row} (h : 3 ≤ row.length ∧ row.length ≤ 6) :
    state.feed row = { state with keyValue := KeyValue.feed state.keyValue row } := by
  have hshort : ¬13 ≤ row.length := by omega
  simp [ParseState.feed, Dialect.ofRow?, Tabular.minColumns, h, hshort]

theorem feed_other (state : ParseState) {row : Row} (hlong : ¬13 ≤ row.length)
    (hmid : ¬(3 ≤ row.length ∧ row.length ≤ 6)) : state.feed row = state := by
  simp only [ParseState.feed, Dialect.ofRow?, Tabular.minColumns, hlong, hmid, if_false]

/-- One pass over a table feeds each dialect its own rows, in their order. -/
theorem foldl_feed (table : Table) (state : ParseState) :
    table.foldl ParseState.feed state =
      { tabular := (tabularRows table).foldl Tabular.feed state.tabular
        keyValue := (keyValueRows table).foldl KeyValue.feed state.keyValue } := by
  unfold tabularRows keyValueRows
  induction table generalizing state with
  | nil => rfl
  | cons row rest ih =>
    rw [List.foldl_cons, ih]
    by_cases hlong : 13 ≤ row.length
    · have hmid : ¬(3 ≤ row.length ∧ row.length ≤ 6) := by omega
      rw [feed_tabular state hlong]
      simp [hlong, hmid]
    · by_cases hmid : 3 ≤ row.length ∧ row.length ≤ 6
      · rw [feed_keyValue state hmid]
        simp [hlong, hmid]
      · rw [feed_other state hlong hmid]
        simp only [List.filter_cons, hlong, hmid, decide_false, Bool.false_eq_true, if_false]

theorem parseTable_eq (table : Table) :
    parseTable table =
      (Tabular.parse (tabularRows table)).merge (KeyValue.parse (keyValueRows table)) := by
  unfold parseTable
  rw [foldl_feed]
  rfl

/-- No key/value row touches a pair. -/
theorem KeyValue.pair?_feed (state : KeyValue.State) (row : Row) (device : String) :
    (KeyValue.feed state row).readings.pair? device = state.readings.pair? device := by
  unfold feed
  cases row with
  | nil => rfl
  | cons first rest =>
    simp only
    split
    · exact Section.pair?_ensure _ _ _
    · split
      · rfl
      · split
        · rw [Section.pair?_modify]
          split
          · rename_i h
            rw [← h, Section.pair?_eq_reading]
            rfl
          · rfl
        · rfl

theorem KeyValue.pair?_parse (table : Table) (device : String) :
    (KeyValue.parse table).pair? device = none := by
  have hrun : ∀ state : KeyValue.State, (table.foldl feed state).readings.pair? device =
      state.readings.pair? device := by
    intro state
    induction table generalizing state with
    | nil => rfl
    | cons row rest ih => rw [List.foldl_cons, ih, pair?_feed]
  exact hrun {}

theorem contains_parseTable (table : Table) (device : String) :
    (parseTable table).contains device = ((Tabular.parse (tabularRows table)).contains device ||
      (KeyValue.parse (keyValueRows table)).contains device) := by
  rw [parseTable_eq, Section.contains_merge]

theorem value?_parseTable (table : Table) (device name : String) :
    (parseTable table).value? device name =
      ((KeyValue.parse (keyValueRows table)).value? device name).or
        ((Tabular.parse (tabularRows table)).value? device name) := by
  rw [parseTable_eq, Section.value?_merge]

theorem pair?_parseTable (table : Table) (device : String) :
    (parseTable table).pair? device = (Tabular.parse (tabularRows table)).pair? device := by
  rw [parseTable_eq, Section.pair?_merge, KeyValue.pair?_parse, Option.none_or]

/-- The section of a table is that of its key/value rows laid over that of its tabular rows: the
devices of both, a value of the first if there is one, the pairs of the second. So tables with the
same rows of either dialect give the same section, however these rows alternate with each other and
with rows of other widths, and a tabular row leaves open the record that was open before it. -/
theorem parseTable_overlay (table : Table) :
    (∀ device, (parseTable table).contains device ↔
      (Tabular.parse (tabularRows table)).contains device ∨
        (KeyValue.parse (keyValueRows table)).contains device) ∧
    (∀ device name, (parseTable table).value? device name =
      ((KeyValue.parse (keyValueRows table)).value? device name).or
        ((Tabular.parse (tabularRows table)).value? device name)) ∧
    (∀ device, (parseTable table).pair? device =
      (Tabular.parse (tabularRows table)).pair? device) ∧
    (∀ other, tabularRows other = tabularRows table → keyValueRows other = keyValueRows table →
      parseTable other = parseTable table) ∧
    ∀ row, 13 ≤ row.length →
      ((table ++ [row]).foldl ParseState.feed {}).keyValue =
        (table.foldl ParseState.feed {}).keyValue := by
  refine ⟨?_, value?_parseTable table, pair?_parseTable table, ?_, ?_⟩
  · intro device
    rw [contains_parseTable, Bool.or_eq_true]
  · intro other htabular hkeyValue
    rw [parseTable_eq, parseTable_eq, htabular, hkeyValue]
  · intro row hrow
    rw [List.foldl_append, List.foldl_cons, List.foldl_nil, feed_tabular _ hrow]

end Telemetry

end DiskHealth
