import DiskHealth.Proofs.Telemetry.Attribution

/-!
Faults stay where they are. A value's text decides over the value alone: the device, the name and
the pair of a tabular line are those of any other raw value (`TabularLine.place_recorded?_withRaw`),
and a word with a colon settles the key of its row (`KeyValue.exists_key`). The main statement is
that of two tables that differ in the value of one row: their sections have the same devices, names
and pairs, and the same values but at that row's own place.
-/

namespace DiskHealth

/-- Two sections have the same names and agree but for the value at one place. -/
structure Section.DifferAt (place : Option (String × String)) (s t : Section) : Prop
    extends s.AgreeOff place t where
  names : ∀ device name, (s.value? device name).isSome = (t.value? device name).isSome

namespace Section.DifferAt

variable {place : Option (String × String)} {lower lower' upper upper' : Section}

theorem refl (place : Option (String × String)) (s : Section) : s.DifferAt place s :=
  ⟨.refl place s, fun _ _ => rfl⟩

theorem merge (hlower : lower.DifferAt place lower') (hupper : upper.DifferAt place upper') :
    (lower.merge upper).DifferAt place (lower'.merge upper') where
  toAgreeOff := hlower.toAgreeOff.merge hupper.toAgreeOff
  names device name := by
    rw [value?_merge, value?_merge, Option.isSome_or, Option.isSome_or, hlower.names, hupper.names]

end Section.DifferAt

namespace Telemetry

theorem parseTable_differAt {place : Option (String × String)} {table table' : Table}
    (htabular : (Tabular.parse (tabularRows table)).DifferAt place
      (Tabular.parse (tabularRows table')))
    (hkeyValue : (KeyValue.parse (keyValueRows table)).DifferAt place
      (KeyValue.parse (keyValueRows table'))) :
    (parseTable table).DifferAt place (parseTable table') := by
  rw [parseTable_eq, parseTable_eq]
  exact htabular.merge hkeyValue

/-- Whether a place holds something depends on the places alone that the entries are for. -/
theorem Entry.isSome_settleAll_between {device name : String}
    {before middle middle' after : List Entry} (h : middle.map place = middle'.map place) :
    (settleAll device name none (before ++ middle ++ after)).isSome =
      (settleAll device name none (before ++ middle' ++ after)).isSome := by
  have hany : ∀ l : List Entry,
      (l.map place).any (· == (device, name)) = l.any (isAt device name) := fun l => List.any_map
  have hmiddle : middle.any (isAt device name) = middle'.any (isAt device name) := by
    rw [← hany, h, hany]
  simp only [isSome_settleAll, List.any_append, hmiddle]

/-! ### A tabular line with another raw value -/

namespace TabularLine

variable (line : TabularLine) (raw : String)

def withRaw : TabularLine :=
  { line with raw }

theorem subject?_withRaw : (line.withRaw raw).subject? = line.subject? := rfl

theorem renewsPair_withRaw : (line.withRaw raw).renewsPair = line.renewsPair := rfl

theorem normalized?_withRaw : (line.withRaw raw).normalized? = line.normalized? := rfl

theorem place_recorded?_withRaw :
    (line.withRaw raw).recorded?.map Entry.place = line.recorded?.map Entry.place := by
  unfold recorded?
  rw [subject?_withRaw]
  by_cases h : line.name = undocumented
  · simp [withRaw, h]
  · cases line.subject? <;> simp [withRaw, h, Entry.place]

theorem exists_ofRow? {columns : Row} (h : columns.length = 12) :
    ∃ line : TabularLine, ∀ raw rest,
      ofRow? (columns ++ raw :: rest) = some (line.withRaw raw) := by
  match columns, h with
  | [device, _, _, code, name, _, value, _, threshold, _, _, _], _ =>
    exact ⟨⟨device, code, name, value, threshold, ""⟩, fun _ _ => rfl⟩

end TabularLine

namespace Tabular

theorem lines_between {row : Row} {line : TabularLine} (h : TabularLine.ofRow? row = some line)
    (before after : Table) :
    lines (before ++ row :: after) = lines before ++ line :: lines after := by
  simp [lines, h]

theorem entries_between {row : Row} {line : TabularLine} (h : TabularLine.ofRow? row = some line)
    (before after : Table) :
    entries (before ++ row :: after) =
      entries before ++ line.recorded?.toList ++ entries after := by
  unfold entries
  rw [lines_between h]
  cases he : line.recorded? <;> simp [he]

/-- The raw value of a line changes the value at the line's place and nothing else. -/
theorem differAt_of_withRaw {row row' : Row} {line : TabularLine} {raw : String}
    (h : TabularLine.ofRow? row = some line)
    (h' : TabularLine.ofRow? row' = some (line.withRaw raw)) (before after : Table) :
    (parse (before ++ row :: after)).DifferAt (line.recorded?.map Entry.place)
      (parse (before ++ row' :: after)) where
  devices device := by
    rw [Bool.eq_iff_iff, contains_parse, contains_parse, lines_between h, lines_between h']
    simp [TabularLine.withRaw, or_and_right, exists_or]
  pairs device := by
    have hsame : (line.withRaw raw).device = line.device := rfl
    rw [pair?_parse, pair?_parse, lines_between h, lines_between h']
    simp only [List.reverse_append, List.reverse_cons, List.find?_append, List.find?_singleton,
      hsame, TabularLine.renewsPair_withRaw]
    cases (lines after).reverse.find? fun line => line.device == device && line.renewsPair with
    | some last => rfl
    | none =>
      cases line.device == device && line.renewsPair
      · rfl
      · exact (line.normalized?_withRaw raw).symm
  values device name hne := by
    have hplace : ∀ e ∈ line.recorded?.toList ++ (line.withRaw raw).recorded?.toList,
        line.recorded?.map Entry.place = some e.place := by
      intro e he
      rcases List.mem_append.1 he with he | he
      · rw [Option.mem_toList.1 he]
        rfl
      · rw [← line.place_recorded?_withRaw raw, Option.mem_toList.1 he]
        rfl
    rw [value?_parse, value?_parse, entries_between h, entries_between h']
    exact Entry.settleAll_between fun e he hat => hne (hat ▸ hplace e he)
  names device name := by
    have hplaces : line.recorded?.toList.map Entry.place =
        (line.withRaw raw).recorded?.toList.map Entry.place := by
      have hmap := line.place_recorded?_withRaw raw
      cases he : line.recorded? <;> cases he' : (line.withRaw raw).recorded? <;> simp_all
    rw [value?_parse, value?_parse, entries_between h, entries_between h']
    exact Entry.isSome_settleAll_between hplaces

end Tabular

/-! ### A key/value row with other words after its colon -/

/-- Two rows with one key change the value under that key and nothing else. -/
theorem KeyValue.differAt_of_pair {row row' : Row} {key : String} {value value' : Int64}
    (hdevice : device? row = none) (hdevice' : device? row' = none)
    (hpair : parsePair (" ".intercalate row) = .ok (key, value))
    (hpair' : parsePair (" ".intercalate row') = .ok (key, value')) (before after : Table) :
    (parse (before ++ [row] ++ after)).DifferAt ((openAfter before).map (·, key))
      (parse (before ++ [row'] ++ after)) where
  toAgreeOff := by
    refine agreeOff_of_between ?_ ?_
    · simp [hdevice, hdevice']
    · simp only [entriesFrom, recorded?_of_pair _ hdevice hpair,
        recorded?_of_pair _ hdevice' hpair']
      cases openAfter before <;> simp [Entry.place]
  names device name := by
    have hplaces : (entriesFrom (openAfter before) [row]).map Entry.place =
        (entriesFrom (openAfter before) [row']).map Entry.place := by
      simp only [entriesFrom, recorded?_of_pair _ hdevice hpair,
        recorded?_of_pair _ hdevice' hpair']
      cases openAfter before <;> rfl
    rw [value?_parse, value?_parse, entries_between before after (by simpa using hdevice),
      entries_between before after (by simpa using hdevice')]
    exact Entry.isSome_settleAll_between hplaces

/-! ### Any row -/

/-- Two rows that differ in a value only: tabular rows in their thirteenth word, key/value rows in
words after one with a colon. -/
inductive Revalued : Row → Row → Prop where
  | tabular {columns : Row} (raw raw' : String) (rest : Row) (hcolumns : columns.length = 12) :
    Revalued (columns ++ raw :: rest) (columns ++ raw' :: rest)
  | keyValue (head : Row) {word : String} {tail tail' : Row}
    (hdevice : KeyValue.device? (head ++ [word]) = none) (hcolon : ':' ∈ word.toList)
    (hwidth : 3 ≤ (head ++ word :: tail).length ∧ (head ++ word :: tail).length ≤ 6)
    (hwidth' : 3 ≤ (head ++ word :: tail').length ∧ (head ++ word :: tail').length ≤ 6) :
    Revalued (head ++ word :: tail) (head ++ word :: tail')

/-- The device and the name under which the value of a row goes that follows others. -/
def place? (before : Table) (row : Row) : Option (String × String) :=
  match Dialect.ofRow? row with
  | some .tabular => (TabularLine.ofRow? row).bind fun line => line.recorded?.map Entry.place
  | some .keyValue =>
    (KeyValue.recorded? (KeyValue.openAfter (keyValueRows before)) row).map Entry.place
  | none => none

section Rows

variable {row : Row} (before after : Table)

theorem tabularRows_of_tabular (h : 13 ≤ row.length) :
    tabularRows (before ++ row :: after) = tabularRows before ++ row :: tabularRows after := by
  rw [tabularRows_append]
  simp [tabularRows, h]

theorem keyValueRows_of_tabular (h : 13 ≤ row.length) :
    keyValueRows (before ++ row :: after) = keyValueRows before ++ keyValueRows after := by
  have hlong : ¬(3 ≤ row.length ∧ row.length ≤ 6) := by omega
  rw [keyValueRows_append]
  simp only [keyValueRows, List.filter_cons, hlong, decide_false, Bool.false_eq_true, if_false]

theorem place?_of_tabular {line : TabularLine} (h : 13 ≤ row.length)
    (hline : TabularLine.ofRow? row = some line) :
    place? before row = line.recorded?.map Entry.place := by
  have hdialect : Dialect.ofRow? row = some .tabular := by
    simp [Dialect.ofRow?, Tabular.minColumns, h]
  rw [place?, hdialect, hline]
  rfl

theorem place?_of_keyValue {key : String} {value : Int64} (h : 3 ≤ row.length ∧ row.length ≤ 6)
    (hdevice : KeyValue.device? row = none)
    (hpair : KeyValue.parsePair (" ".intercalate row) = .ok (key, value)) :
    place? before row = (KeyValue.openAfter (keyValueRows before)).map (·, key) := by
  have hshort : ¬13 ≤ row.length := by omega
  have hdialect : Dialect.ofRow? row = some .keyValue := by
    simp [Dialect.ofRow?, Tabular.minColumns, h, hshort]
  rw [place?, hdialect]
  simp only [KeyValue.recorded?_of_pair _ hdevice hpair]
  cases KeyValue.openAfter (keyValueRows before) <;> rfl

theorem parseTable_differAt_of_tabular {row' : Row} {line : TabularLine} {raw : String}
    (h : 13 ≤ row.length) (h' : 13 ≤ row'.length) (hline : TabularLine.ofRow? row = some line)
    (hline' : TabularLine.ofRow? row' = some (line.withRaw raw)) :
    (parseTable (before ++ row :: after)).DifferAt (place? before row)
      (parseTable (before ++ row' :: after)) := by
  rw [place?_of_tabular before h hline]
  refine parseTable_differAt ?_ ?_
  · rw [tabularRows_of_tabular before after h, tabularRows_of_tabular before after h']
    exact Tabular.differAt_of_withRaw hline hline' _ _
  · rw [keyValueRows_of_tabular before after h, keyValueRows_of_tabular before after h']
    exact .refl _ _

theorem parseTable_differAt_of_keyValue {row' : Row} {key : String} {value value' : Int64}
    (h : 3 ≤ row.length ∧ row.length ≤ 6) (h' : 3 ≤ row'.length ∧ row'.length ≤ 6)
    (hdevice : KeyValue.device? row = none) (hdevice' : KeyValue.device? row' = none)
    (hpair : KeyValue.parsePair (" ".intercalate row) = .ok (key, value))
    (hpair' : KeyValue.parsePair (" ".intercalate row') = .ok (key, value')) :
    (parseTable (before ++ row :: after)).DifferAt (place? before row)
      (parseTable (before ++ row' :: after)) := by
  rw [place?_of_keyValue before h hdevice hpair]
  refine parseTable_differAt ?_ ?_
  · rw [tabularRows_of_keyValue before after h, tabularRows_of_keyValue before after h']
    exact .refl _ _
  · rw [keyValueRows_of_keyValue before after h, keyValueRows_of_keyValue before after h']
    exact KeyValue.differAt_of_pair hdevice hdevice' hpair hpair' _ _

end Rows

/-- A row that differs in its value changes the value at its own place at most: the devices, their
names and their pairs are the same, and so are all other values. -/
theorem parseTable_revalued (before after : Table) {row row' : Row} (h : Revalued row row') :
    (parseTable (before ++ row :: after)).DifferAt (place? before row)
      (parseTable (before ++ row' :: after)) := by
  cases h with
  | @tabular columns raw raw' rest hcolumns =>
    have hlength : ∀ raw, 13 ≤ (columns ++ raw :: rest).length := by
      intro raw
      simp only [List.length_append, List.length_cons]
      omega
    obtain ⟨line, hline⟩ := TabularLine.exists_ofRow? hcolumns
    have hrow' : TabularLine.ofRow? (columns ++ raw' :: rest) =
        some ((line.withRaw raw).withRaw raw') := hline raw' rest
    exact parseTable_differAt_of_tabular before after (hlength raw) (hlength raw')
      (hline raw rest) hrow'
  | @keyValue head word tail tail' hdevice hcolon hwidth hwidth' =>
    have hnone : ∀ tail, KeyValue.device? (head ++ word :: tail) = none := by
      intro tail
      cases head <;> exact hdevice
    obtain ⟨key, hkey⟩ := KeyValue.exists_key head hcolon
    obtain ⟨value, hpair⟩ := hkey tail
    obtain ⟨value', hpair'⟩ := hkey tail'
    exact parseTable_differAt_of_keyValue before after hwidth hwidth' (hnone tail) (hnone tail')
      hpair hpair'

/-- A value that is no number, under a key that was there before: only that value may change. -/
theorem parseTable_revalued_spare :
    (parseTable [["/dev/sda", "NVME", "X"], ["Available", "Spare:", "5%"],
        ["Temperature:", "3", "C"], ["Available", "Spare:", "9%"]]).DifferAt
      (some ("/dev/sda", "Available_Spare"))
      (parseTable [["/dev/sda", "NVME", "X"], ["Available", "Spare:", "5%"],
        ["Temperature:", "3", "C"], ["Available", "Spare:", "/dev/sdb", "x:", "n/a"]]) := by
  have hrows : Revalued (["Available"] ++ "Spare:" :: ["9%"])
      (["Available"] ++ "Spare:" :: ["/dev/sdb", "x:", "n/a"]) :=
    .keyValue ["Available"] (by decide +kernel) (by decide +kernel) (by decide) (by decide)
  exact parseTable_revalued
    [["/dev/sda", "NVME", "X"], ["Available", "Spare:", "5%"], ["Temperature:", "3", "C"]] [] hrows

end Telemetry

end DiskHealth
