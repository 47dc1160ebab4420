import DiskHealth.Proofs.Telemetry.Entries
import DiskHealth.Proofs.Telemetry.Pairs

/-!
The device that a key/value row belongs to. A row that is put between others touches one place at
most, under the device whose record is open there (`KeyValue.agreeOff_of_between`). The main
statement says which device that is: the one named by the closest row before that has three to six
words and names one. A row of another width that names a device does not count, so the value can go
to the device before it (`not_credited_to_closest`).
-/

namespace DiskHealth

/-- Two sections agree but for the value at one place, a device and a name. -/
structure Section.AgreeOff (place : Option (String × String)) (s t : Section) : Prop where
  devices : ∀ device, s.contains device = t.contains device
  pairs : ∀ device, s.pair? device = t.pair? device
  values : ∀ device name, place ≠ some (device, name) →
    s.value? device name = t.value? device name

theorem Section.AgreeOff.refl (place : Option (String × String)) (s : Section) :
    s.AgreeOff place s :=
  ⟨fun _ => rfl, fun _ => rfl, fun _ _ _ => rfl⟩

theorem Section.AgreeOff.merge {place : Option (String × String)}
    {lower lower' upper upper' : Section}
    (hlower : lower.AgreeOff place lower') (hupper : upper.AgreeOff place upper') :
    (lower.merge upper).AgreeOff place (lower'.merge upper') where
  devices device := by rw [contains_merge, contains_merge, hlower.devices, hupper.devices]
  pairs device := by rw [pair?_merge, pair?_merge, hlower.pairs, hupper.pairs]
  values device name h := by
    rw [value?_merge, value?_merge, hlower.values device name h, hupper.values device name h]

namespace Telemetry

namespace Entry

def place (e : Entry) : String × String :=
  (e.device, e.name)

theorem isAt_eq_false {device name : String} {e : Entry} (h : e.place ≠ (device, name)) :
    isAt device name e = false := by
  rw [Bool.eq_false_iff]
  exact fun hat => h (isAt_iff.1 hat)

/-- What a place holds does not depend on entries for other places in between. -/
theorem settleAll_between {device name : String} {before middle middle' after : List Entry}
    (h : ∀ e ∈ middle ++ middle', e.place ≠ (device, name)) :
    settleAll device name none (before ++ middle ++ after) =
      settleAll device name none (before ++ middle' ++ after) := by
  have hmiddle : ∀ old, settleAll device name old middle = old := fun old =>
    settleAll_of_elsewhere fun e he => isAt_eq_false (h e (List.mem_append_left _ he))
  have hmiddle' : ∀ old, settleAll device name old middle' = old := fun old =>
    settleAll_of_elsewhere fun e he => isAt_eq_false (h e (List.mem_append_right _ he))
  simp only [settleAll_append, hmiddle, hmiddle']

end Entry

namespace KeyValue

theorem openAfter_eq_none {rows : Table} (h : ∀ row ∈ rows, device? row = none) :
    openAfter rows = none :=
  lastHeading?_eq_none_iff.2 h

/-- The entries of rows with some rows between that name no device. -/
theorem entries_between (before : Table) {middle : Table} (after : Table)
    (h : ∀ row ∈ middle, device? row = none) :
    entries (before ++ middle ++ after) =
      entries before ++ entriesFrom (openAfter before) middle ++
        entriesFrom (openAfter before) after := by
  have hopen : openAfter (before ++ middle) = openAfter before := by
    rw [openAfter_append, openAfter_eq_none h, Option.none_or]
  simp only [entries, entriesFrom_append, hopen, Option.or_none]

/-- Rows between others that name no device change only the places that they have entries for. -/
theorem agreeOff_of_between {place : Option (String × String)} {before middle middle' after : Table}
    (h : ∀ row ∈ middle ++ middle', device? row = none)
    (hplace : ∀ e ∈ entriesFrom (openAfter before) middle ++ entriesFrom (openAfter before) middle',
      place = some e.place) :
    (parse (before ++ middle ++ after)).AgreeOff place (parse (before ++ middle' ++ after)) where
  devices device := by
    have hmiddle : ∀ row ∈ middle ++ middle', device? row ≠ some device := by
      intro row hrow hdevice
      cases hdevice.symm.trans (h row hrow)
    rw [Bool.eq_iff_iff, contains_parse, contains_parse]
    grind
  pairs device := by rw [pair?_parse, pair?_parse]
  values device name hne := by
    rw [value?_parse, value?_parse,
      entries_between before after fun row hrow => h row (List.mem_append_left _ hrow),
      entries_between before after fun row hrow => h row (List.mem_append_right _ hrow)]
    refine Entry.settleAll_between fun e he hat => hne ?_
    rw [hplace e he, hat]

theorem intercalate_cons_prefix (sep word : List Char) (tail : List (List Char)) :
    word <+: sep.intercalate (word :: tail) := by
  cases tail with
  | nil => simp
  | cons next rest => simp [List.intercalate_cons_cons]

/-- The text of a row goes on after one of its words. -/
theorem intercalate_prefix (sep : List Char) (head : List (List Char)) (word : List Char)
    (tail : List (List Char)) :
    sep.intercalate (head ++ [word]) <+: sep.intercalate (head ++ word :: tail) := by
  induction head with
  | nil => simpa using intercalate_cons_prefix sep word tail
  | cons first rest ih =>
    have hne : ∀ l, rest ++ word :: l ≠ [] := by simp
    rw [List.cons_append, List.cons_append, List.intercalate_cons_of_ne_nil (hne []),
      List.intercalate_cons_of_ne_nil (hne tail)]
    exact (List.prefix_append_right_inj _).2 ih

theorem mem_intercalate_concat {c : Char} (sep : List Char) (head : List (List Char))
    {word : List Char} (h : c ∈ word) : c ∈ sep.intercalate (head ++ [word]) := by
  induction head with
  | nil => simpa using h
  | cons first rest ih =>
    rw [List.cons_append, List.intercalate_cons_of_ne_nil (by simp)]
    exact List.mem_append_right _ ih

/-- A word with a colon settles the key of its row, whatever words come after it. -/
theorem exists_key (head : Row) {word : String} (hcolon : ':' ∈ word.toList) :
    ∃ key, ∀ tail, ∃ value,
      parsePair (" ".intercalate (head ++ word :: tail)) = .ok (key, value) := by
  have htext : ∀ row : Row, (" ".intercalate row).toList = [' '].intercalate (row.map (·.toList)) :=
    fun row => String.toList_intercalate
  obtain ⟨field, value, hsplit, hfield⟩ := List.eq_append_cons_of_mem
    (mem_intercalate_concat [' '] (head.map (·.toList)) hcolon)
  refine ⟨keyOf field, fun tail => ?_⟩
  obtain ⟨more, hmore⟩ := intercalate_prefix [' '] (head.map (·.toList)) word.toList
    (tail.map (·.toList))
  have hline : (" ".intercalate (head ++ word :: tail)).toList =
      field ++ ':' :: (value ++ more) := by
    rw [htext, List.map_append, List.map_cons, ← hmore, hsplit, List.append_assoc, List.cons_append]
  obtain ⟨w, hpair, -⟩ := parsePair_of_colon hfield hline
  exact ⟨w, hpair⟩

theorem recorded?_of_pair (current : Option String) {row : Row} {key : String} {value : Int64}
    (hdevice : device? row = none)
    (hpair : parsePair (" ".intercalate row) = .ok (key, value)) :
    recorded? current row = current.map fun device => ⟨device, key, value, true⟩ := by
  have hsome : pair? row = some (key, value) := by
    unfold pair?
    rw [hpair]
    rfl
  cases current <;> simp [recorded?, hdevice, hsome]

end KeyValue

/-! ### Rows in their table -/

theorem tabularRows_append (before after : Table) :
    tabularRows (before ++ after) = tabularRows before ++ tabularRows after :=
  List.filter_append ..

theorem keyValueRows_append (before after : Table) :
    keyValueRows (before ++ after) = keyValueRows before ++ keyValueRows after :=
  List.filter_append ..

theorem parseTable_agreeOff {place : Option (String × String)} {table table' : Table}
    (htabular : (Tabular.parse (tabularRows table)).AgreeOff place
      (Tabular.parse (tabularRows table')))
    (hkeyValue : (KeyValue.parse (keyValueRows table)).AgreeOff place
      (KeyValue.parse (keyValueRows table'))) :
    (parseTable table).AgreeOff place (parseTable table') := by
  rw [parseTable_eq, parseTable_eq]
  exact htabular.merge hkeyValue

section KeyValueRow

variable {row : Row} (before after : Table)

theorem tabularRows_of_keyValue (h : 3 ≤ row.length ∧ row.length ≤ 6) :
    tabularRows (before ++ row :: after) = tabularRows before ++ tabularRows after := by
  have hshort : ¬13 ≤ row.length := by omega
  rw [tabularRows_append]
  simp [tabularRows, hshort]

theorem keyValueRows_of_keyValue (h : 3 ≤ row.length ∧ row.length ≤ 6) :
    keyValueRows (before ++ row :: after) =
      keyValueRows before ++ [row] ++ keyValueRows after := by
  rw [keyValueRows_append]
  simp [keyValueRows, h]

variable {key : String} {value : Int64} (hwidth : 3 ≤ row.length ∧ row.length ≤ 6)
  (hdevice : KeyValue.device? row = none)
  (hpair : KeyValue.parsePair (" ".intercalate row) = .ok (key, value))

include hwidth hdevice hpair

/-- A row changes nothing but what stands under its key, with the device whose record is open. -/
theorem parseTable_agreeOff_of_pair :
    (parseTable (before ++ row :: after)).AgreeOff
      ((KeyValue.openAfter (keyValueRows before)).map (·, key)) (parseTable (before ++ after)) := by
  have hbetween : (KeyValue.parse (keyValueRows before ++ [row] ++ keyValueRows after)).AgreeOff
      ((KeyValue.openAfter (keyValueRows before)).map (·, key))
      (KeyValue.parse (keyValueRows before ++ [] ++ keyValueRows after)) := by
    refine KeyValue.agreeOff_of_between (by simpa using hdevice) ?_
    simp only [KeyValue.entriesFrom, KeyValue.recorded?_of_pair _ hdevice hpair, List.append_nil]
    cases KeyValue.openAfter (keyValueRows before) <;> simp [Entry.place]
  refine parseTable_agreeOff ?_ ?_
  · rw [tabularRows_of_keyValue before after hwidth, tabularRows_append]
    exact .refl _ _
  · rw [keyValueRows_of_keyValue before after hwidth, keyValueRows_append]
    simpa using hbetween

/-- The value of the last row stands under its key, with the device whose record is open. -/
theorem value?_parseTable_of_pair {device : String}
    (hopen : KeyValue.openAfter (keyValueRows before) = some device) :
    (parseTable (before ++ [row])).value? device key = some value := by
  have hlast : KeyValue.entriesFrom (some device) [row] = [⟨device, key, value, true⟩] := by
    simp [KeyValue.entriesFrom, KeyValue.recorded?_of_pair _ hdevice hpair]
  have hupper : (KeyValue.parse (keyValueRows (before ++ [row]))).value? device key =
      some value := by
    rw [keyValueRows_of_keyValue before [] hwidth, KeyValue.value?_parse,
      KeyValue.entries_between _ _ (by simpa using hdevice), hopen, hlast]
    simp [keyValueRows, KeyValue.entriesFrom, Entry.settleAll, Entry.isAt, Entry.settle]
  rw [value?_parseTable, hupper, Option.some_or]

end KeyValueRow

/-- The closest of some rows that names a device, tabular rows apart. -/
def closest? (rows : Table) : Option Row :=
  rows.reverse.find? fun row => row.length < 13 && (KeyValue.device? row).isSome

theorem openAfter_of_closest {rows : Table} {r : Row} (h : closest? rows = some r)
    (hwidth : 3 ≤ r.length ∧ r.length ≤ 6) :
    KeyValue.openAfter (keyValueRows rows) = KeyValue.device? r := by
  unfold closest? at h
  obtain ⟨hr, near, far, hrows, hnear⟩ := List.find?_eq_some_iff_append.1 h
  obtain ⟨device, hdevice⟩ := Option.isSome_iff_exists.1 (Bool.and_eq_true_iff.1 hr).2
  unfold KeyValue.openAfter keyValueRows
  rw [← List.filter_reverse, hrows, List.filter_append, List.findSome?_append]
  have hnone : (near.filter fun row => 3 ≤ row.length ∧ row.length ≤ 6).findSome?
      KeyValue.device? = none := by
    rw [List.findSome?_eq_none_iff]
    intro x hx
    obtain ⟨hx, hw⟩ := List.mem_filter.1 hx
    have hshort : x.length < 13 := by
      have := of_decide_eq_true hw
      omega
    simpa [hshort] using hnear x hx
  rw [hnone, Option.none_or, List.filter_cons_of_pos (by simpa using hwidth)]
  simp [hdevice]

/-- A row of three to six words with a colon, which names no device, gives a value. The value goes
to the device named by the closest row before of three to six words that names one, and nothing else
changes; without such a row nothing changes at all. The device is the one named by the closest row
of fewer than thirteen words, if that row has three to six. -/
theorem parseTable_credits (before after : Table) (row : Row)
    (hwidth : 3 ≤ row.length ∧ row.length ≤ 6) (hdevice : KeyValue.device? row = none)
    (hcolon : ∃ word ∈ row, ':' ∈ word.toList) :
    ∃ key value, KeyValue.parsePair (" ".intercalate row) = .ok (key, value) ∧
      (parseTable (before ++ row :: after)).AgreeOff
        ((KeyValue.openAfter (keyValueRows before)).map (·, key)) (parseTable (before ++ after)) ∧
      (∀ device, KeyValue.openAfter (keyValueRows before) = some device →
        (parseTable (before ++ [row])).value? device key = some value) ∧
      ∀ r, closest? before = some r → 3 ≤ r.length ∧ r.length ≤ 6 →
        KeyValue.openAfter (keyValueRows before) = KeyValue.device? r := by
  obtain ⟨word, hword, hcolon⟩ := hcolon
  obtain ⟨head, tail, rfl⟩ := List.append_of_mem hword
  obtain ⟨key, hkey⟩ := KeyValue.exists_key head hcolon
  obtain ⟨value, hpair⟩ := hkey tail
  exact ⟨key, value, hpair, parseTable_agreeOff_of_pair before after hwidth hdevice hpair,
    fun _ hopen => value?_parseTable_of_pair before hwidth hdevice hpair hopen,
    fun _ hr => openAfter_of_closest hr⟩

/-- A tabular row between a device and its value does not count. -/
theorem parseTable_credits_past_tabular :
    (parseTable [["/dev/nvme0n1", "NVME", "A"], ["/dev/nvme1n1", "NVME", "B"],
        ["/dev/sda", "ATA", "X", "9", "Hours", "0x12", "100", "100", "0", "Old", "Now", "-", "7"],
        ["Available", "Spare:", "5%"]]).value? "/dev/nvme1n1" "Available_Spare" = some 5 := by
  obtain ⟨key, value, hpair, -, hvalue, -⟩ := parseTable_credits
    [["/dev/nvme0n1", "NVME", "A"], ["/dev/nvme1n1", "NVME", "B"],
      ["/dev/sda", "ATA", "X", "9", "Hours", "0x12", "100", "100", "0", "Old", "Now", "-", "7"]]
    [] ["Available", "Spare:", "5%"] (by decide) (by decide +kernel)
    ⟨"Spare:", by decide, by decide +kernel⟩
  have hconcrete : KeyValue.parsePair (" ".intercalate ["Available", "Spare:", "5%"]) =
      .ok ("Available_Spare", 5) := rfl
  cases hpair.symm.trans hconcrete
  exact hvalue "/dev/nvme1n1" (by decide +kernel)

/-- The closest row that names a device has eight words, so a value goes to the device before. -/
theorem not_credited_to_closest :
    (closest? [["/dev/nvme0n1", "NVME", "SAMSUNG"],
        ["/dev/nvme1n1", "NVME", "Samsung", "SSD", "970", "EVO", "Plus", "1TB"]]).bind
      KeyValue.device? = some "/dev/nvme1n1" ∧
    (parseTable [["/dev/nvme0n1", "NVME", "SAMSUNG"],
        ["/dev/nvme1n1", "NVME", "Samsung", "SSD", "970", "EVO", "Plus", "1TB"],
        ["Available", "Spare:", "5%"]]).value? "/dev/nvme0n1" "Available_Spare" = some 5 ∧
    (parseTable [["/dev/nvme0n1", "NVME", "SAMSUNG"],
        ["/dev/nvme1n1", "NVME", "Samsung", "SSD", "970", "EVO", "Plus", "1TB"],
        ["Available", "Spare:", "5%"]]).contains "/dev/nvme1n1" = false := by
  decide +kernel

end Telemetry

end DiskHealth
