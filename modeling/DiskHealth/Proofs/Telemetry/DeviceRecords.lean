import DiskHealth.Proofs.Telemetry.Entries
import DiskHealth.Proofs.Telemetry.Headings

/-!
Records of devices in key/value rows. A row that names a device is the heading of its record, and the
rows up to the next such row belong to it. A key has the value of the last row of the record that
gives it one (`value?_eq`); rows before the first heading belong to none, and a device that is named
again goes on with its record. The main statement is this closed form of the section of a table.
-/

namespace DiskHealth.Telemetry.KeyValue

/-- The rows of a device's record. -/
def recordOf (device : String) (table : Table) : Table :=
  under device? none device table

/-- A row gives a key a value. -/
def Gives (row : Row) (key : String) (value : Int64) : Prop :=
  row ≠ [] ∧ parsePair (" ".intercalate row) = .ok (key, value)

/-- The value that a row gives a key. -/
def valueOf? (key : String) (row : Row) : Option Int64 :=
  (pair? row).bind fun p => if p.1 = key then some p.2 else none

theorem device?_eq_some_iff {row : Row} {device : String} :
    device? row = some device ↔ row.head? = some device ∧ namesDevice device = true :=
  Option.filter_eq_some_iff

theorem pair?_eq_some_iff {row : Row} {p : String × Int64} :
    pair? row = some p ↔ parsePair (" ".intercalate row) = .ok p := by
  unfold pair?
  cases parsePair (" ".intercalate row) <;> simp [Except.toOption]

theorem valueOf?_eq_some_iff {key : String} {row : Row} {value : Int64} :
    valueOf? key row = some value ↔ Gives row key value := by
  unfold valueOf?
  rw [Option.bind_eq_some_iff]
  constructor
  · rintro ⟨⟨k, v⟩, hpair, hvalue⟩
    split at hvalue
    · rename_i hkey
      cases hkey
      cases hvalue
      refine ⟨?_, pair?_eq_some_iff.1 hpair⟩
      rintro rfl
      cases hpair
    · cases hvalue
  · rintro ⟨-, hpair⟩
    exact ⟨(key, value), pair?_eq_some_iff.2 hpair, if_pos rfl⟩

/-- What a row leaves in a place: the value that it gives there, if it belongs to the device. -/
theorem settleAll_recorded? (current : Option String) (row : Row) (device key : String)
    (old : Option Int64) :
    Entry.settleAll device key old (recorded? current row).toList =
      ((if device? row = none ∧ current = some device then [row] else []).findSome?
        (valueOf? key)).or old := by
  by_cases h : device? row = none ∧ current = some device
  · obtain ⟨hdevice, rfl⟩ := h
    rw [if_pos ⟨hdevice, rfl⟩, List.findSome?_singleton]
    cases hpair : pair? row with
    | none => simp [recorded?, valueOf?, hdevice, hpair, Entry.settleAll]
    | some p =>
      by_cases hkey : p.1 = key <;>
        simp [recorded?, valueOf?, hdevice, hpair, hkey, Entry.settleAll, Entry.isAt, Entry.settle]
  · rw [if_neg h, List.findSome?_nil, Option.none_or]
    apply Entry.settleAll_of_elsewhere
    intro e he
    obtain ⟨hdevice, hcurrent, -⟩ := recorded?_eq_some_iff.1 (Option.mem_toList.1 he)
    rw [Bool.eq_false_iff]
    intro hat
    obtain ⟨hsame, -⟩ := Prod.mk.inj (Entry.isAt_iff.1 hat)
    exact h ⟨hdevice, hsame ▸ hcurrent⟩

theorem settleAll_entriesFrom (current : Option String) (table : Table) (device key : String)
    (old : Option Int64) :
    Entry.settleAll device key old (entriesFrom current table) =
      ((under device? current device table).reverse.findSome? (valueOf? key)).or old := by
  induction table generalizing current old with
  | nil => rfl
  | cons row rest ih =>
    rw [entriesFrom, Entry.settleAll_append, ih, settleAll_recorded?, under_cons,
      List.reverse_append, List.findSome?_append, Option.or_assoc]
    split <;> rfl

theorem value?_eq (table : Table) (device key : String) :
    (parse table).value? device key =
      (recordOf device table).reverse.findSome? (valueOf? key) := by
  rw [value?_parse, entries, settleAll_entriesFrom, Option.or_none]
  rfl

theorem value?_eq_some_iff {table : Table} {device key : String} {value : Int64} :
    (parse table).value? device key = some value ↔
      ∃ before row after, recordOf device table = before ++ row :: after ∧ Gives row key value ∧
        ∀ later ∈ after, ∀ other, ¬Gives later key other := by
  have hnone : ∀ row, valueOf? key row = none ↔ ∀ other, ¬Gives row key other := by
    intro row
    rw [Option.eq_none_iff_forall_ne_some]
    exact forall_congr' fun other => not_congr valueOf?_eq_some_iff
  rw [value?_eq, List.findSome?_eq_some_iff]
  constructor
  · rintro ⟨after, row, before, hrows, hrow, hafter⟩
    refine ⟨before.reverse, row, after.reverse, ?_, valueOf?_eq_some_iff.1 hrow, ?_⟩
    · rw [← List.reverse_reverse (recordOf device table), hrows]
      simp
    · exact fun later hlater => (hnone later).1 (hafter later (List.mem_reverse.1 hlater))
  · rintro ⟨before, row, after, hrows, hrow, hafter⟩
    refine ⟨after.reverse, row, before.reverse, ?_, valueOf?_eq_some_iff.2 hrow, ?_⟩
    · rw [hrows]
      simp
    · exact fun later hlater => (hnone later).2 (hafter later (List.mem_reverse.1 hlater))

theorem contains_iff (table : Table) (device : String) :
    (parse table).contains device ↔
      ∃ row ∈ table, row.head? = some device ∧ namesDevice device = true := by
  simp only [contains_parse, device?_eq_some_iff]

theorem parse_of_noDevice {before : Table} (rest : Table)
    (h : ∀ row ∈ before, device? row = none) : parse (before ++ rest) = parse rest := by
  apply Section.ext_view
  · intro device
    have hnone : ¬∃ row ∈ before, device? row = some device := by
      rintro ⟨row, hrow, hdevice⟩
      cases hdevice.symm.trans (h row hrow)
    rw [Bool.eq_iff_iff, contains_parse, contains_parse]
    simp only [List.mem_append, or_and_right, exists_or, hnone, false_or]
  · intro device key
    have hrecord : recordOf device (before ++ rest) = recordOf device rest := by
      unfold recordOf
      rw [under_append, under_of_plain h (by simp), lastHeading?_eq_none_iff.2 h]
      rfl
    rw [value?_eq, value?_eq, hrecord]
  · intro device
    rw [pair?_parse, pair?_parse]

theorem parse_of_device (before : Table) {row : Row} {device : String} (rest : Table)
    (h : device? row = some device) :
    parse (before ++ row :: rest) = (parse before).merge (parse (row :: rest)) := by
  apply Section.ext_view
  · intro other
    rw [Bool.eq_iff_iff, Section.contains_merge, Bool.or_eq_true, contains_parse, contains_parse,
      contains_parse]
    simp only [List.mem_append, or_and_right, exists_or]
  · intro other key
    have hrecord : recordOf other (before ++ row :: rest) =
        recordOf other before ++ recordOf other (row :: rest) := by
      unfold recordOf
      rw [under_append, under_of_heading h]
    rw [Section.value?_merge, value?_eq, value?_eq, value?_eq, hrecord, List.reverse_append,
      List.findSome?_append]
  · intro other
    rw [Section.pair?_merge, pair?_parse, pair?_parse, pair?_parse, Option.or_none]

/-- The section of a table in closed form. A device is there if a row begins with it and it reads as
a device. A key has the value of the last row of the device's record that gives it one, where the
rows of a record are those that name no device and for which the nearest row before that names one
names this one. There are no pairs. Rows before the first device leave nothing, and from a row that
names a device on all is laid over what was there, so a device named again loses nothing. -/
theorem parse_records (table : Table) (device : String) :
    ((parse table).contains device ↔
      ∃ row ∈ table, row.head? = some device ∧ namesDevice device = true) ∧
    (∀ key value, (parse table).value? device key = some value ↔
      ∃ before row after, recordOf device table = before ++ row :: after ∧ Gives row key value ∧
        ∀ later ∈ after, ∀ other, ¬Gives later key other) ∧
    (parse table).pair? device = none ∧
    (∀ before rest, table = before ++ rest → (∀ row ∈ before, device? row = none) →
      parse table = parse rest) ∧
    ∀ before row rest, table = before ++ row :: rest → device? row = some device →
      parse table = (parse before).merge (parse (row :: rest)) := by
  refine ⟨contains_iff table device, fun _ _ => value?_eq_some_iff, pair?_parse table device, ?_, ?_⟩
  · rintro before rest rfl hplain
    exact parse_of_noDevice rest hplain
  · rintro before row rest rfl hdevice
    exact parse_of_device before rest hdevice

/-- A row before any device, and a device that is named again after another. -/
def resumed : Table :=
  [["Power", "Cycles:", "7"], ["/dev/nvme0n1", "NVME", "A"], ["Available", "Spare:", "5%"],
    ["/dev/nvme1n1", "NVME", "B"], ["/dev/nvme0n1"], ["Temperature:", "40", "C"]]

theorem parse_records_resumed :
    (parse resumed).value? "/dev/nvme0n1" "Available_Spare" = some 5 ∧
      (parse resumed).value? "/dev/nvme0n1" "Temperature" = some 40 ∧
      (parse resumed).value? "/dev/nvme0n1" "Power_Cycles" = none := by
  obtain ⟨-, -, -, hplain, hagain⟩ := parse_records resumed "/dev/nvme0n1"
  have hmerge := hagain (resumed.take 4) ["/dev/nvme0n1"] [["Temperature:", "40", "C"]] rfl
    (by decide +kernel)
  have hrest : parse resumed = parse (resumed.drop 1) :=
    hplain [["Power", "Cycles:", "7"]] _ rfl (by decide +kernel)
  refine ⟨?_, ?_, ?_⟩
  · rw [hmerge, Section.value?_merge]
    decide +kernel
  · rw [hmerge, Section.value?_merge]
    decide +kernel
  · rw [hrest]
    decide +kernel

end DiskHealth.Telemetry.KeyValue
