import DiskHealth.Proofs.Numeral
import DiskHealth.Proofs.Telemetry.Entries

/-!
Precedence among tabular lines. Entries for one place settle to the last that replaces, and to the
first that gives way where none replaces (`Entry.foldl_settle`). So a name has the value of the last
line whose code the catalog knows by that name, and otherwise of the first line that goes under the
vendor's name. The main statement is this closed form of the section of a table, with the devices
and their pairs.
-/

namespace DiskHealth

theorem Attribute.ofCode?_eq_reallocatedEvents_iff {code : Nat} {label : String} :
    ofCode? code label = some .reallocatedEvents ↔ code = 196 := by
  unfold ofCode? sharedCrcCode
  constructor
  · intro h
    split at h
    · split at h <;> cases h
    · split at h <;> cases h
      rfl
  · rintro rfl
    rfl

namespace Telemetry

namespace Entry

/-- The last entry that replaces decides, then what a place held, then the first that gives way. -/
theorem foldl_settle (old : Option Int64) (entries : List Entry) :
    entries.foldl settle old =
      ((entries.reverse.find? (·.replaces)).map (·.value)).or
        (old.or ((entries.find? (!·.replaces)).map (·.value))) := by
  induction entries generalizing old with
  | nil => simp
  | cons e rest ih =>
    rw [List.foldl_cons, ih, List.reverse_cons, List.find?_append, List.find?_cons]
    cases he : e.replaces with
    | true => cases rest.reverse.find? (·.replaces) <;> simp [settle, he]
    | false => cases old <;> simp [settle, he]

end Entry

namespace TabularLine

theorem ofRow?_eq_some_iff {row : Row} {line : TabularLine} :
    ofRow? row = some line ↔ 13 ≤ row.length ∧ row[0]? = some line.device ∧
      row[3]? = some line.code ∧ row[4]? = some line.name ∧ row[6]? = some line.value ∧
      row[8]? = some line.threshold ∧ row[12]? = some line.raw := by
  constructor
  · intro h
    unfold ofRow? at h
    split at h
    · cases h
      simp
    · cases h
  · rintro ⟨hlength, hdevice, hcode, hname, hvalue, hthreshold, hraw⟩
    match row, hlength with
    | _ :: _ :: _ :: _ :: _ :: _ :: _ :: _ :: _ :: _ :: _ :: _ :: _ :: _, _ =>
      cases hdevice
      cases hcode
      cases hname
      cases hvalue
      cases hthreshold
      cases hraw
      rfl

theorem exists_ofRow?_of_length {row : Row} (h : 13 ≤ row.length) :
    ∃ line, ofRow? row = some line := by
  match row, h with
  | _ :: _ :: _ :: _ :: _ :: _ :: _ :: _ :: _ :: _ :: _ :: _ :: _ :: _, _ => exact ⟨_, rfl⟩

/-- The code of a line is a number below `2 ^ 32`, after a plus sign or none. -/
theorem codeNumber?_eq_some_iff {line : TabularLine} {code : Nat} :
    line.codeNumber? = some code ↔
      Numeral.SpellsUnsigned 10 line.code.toList code ∧ code < 2 ^ 32 := by
  rw [codeNumber?, Option.filter_eq_some_iff, Numeral.unsigned?_eq_some_iff (by decide)]
  simp

theorem subject?_eq_some_iff {line : TabularLine} {a : Attribute} :
    line.subject? = some a ↔
      ∃ code, line.codeNumber? = some code ∧ Attribute.ofCode? code line.name = some a :=
  Option.bind_eq_some_iff

theorem normalized?_eq_some_iff {line : TabularLine} {p : NormalizedPair} :
    line.normalized? = some p ↔ decimal? line.value.toList = some p.value ∧
      decimal? line.threshold.toList = some p.threshold := by
  unfold normalized?
  cases decimal? line.value.toList with
  | none => simp
  | some value =>
    cases decimal? line.threshold.toList with
    | none => simp
    | some threshold => cases p; simp

theorem renewsPair_iff {line : TabularLine} :
    line.renewsPair = true ↔ line.name ≠ undocumented ∧ line.codeNumber? = some 196 := by
  have hsubject : line.subject? = some .reallocatedEvents ↔ line.codeNumber? = some 196 := by
    simp [subject?_eq_some_iff, Attribute.ofCode?_eq_reallocatedEvents_iff]
  simp [renewsPair, hsubject]

/-- Whether the code of a line stands for the attribute of a canonical name. -/
def isCodeOf (name : String) (line : TabularLine) : Bool :=
  line.subject?.any (·.name == name)

/-- Whether a line goes under the vendor's name, and that name is `name`. -/
def isLabelled (name : String) (line : TabularLine) : Bool :=
  line.subject?.isNone && line.name == name

/-- What a line records: its value for its own device, under the canonical name of its code to
replace what is there, or under the vendor's name to give way to it. -/
theorem recorded?_eq_some_iff {line : TabularLine} {e : Entry} :
    line.recorded? = some e ↔ e.device = line.device ∧ e.value = line.word ∧
      line.name ≠ undocumented ∧
      (e.replaces = true ∧ line.isCodeOf e.name = true ∨
        e.replaces = false ∧ line.isLabelled e.name = true) := by
  obtain ⟨device, name, value, replaces⟩ := e
  unfold recorded? isCodeOf isLabelled
  by_cases hname : line.name = undocumented
  · simp [hname]
  · cases line.subject? with
    | some a => simp [hname]; grind
    | none => simp [hname]; grind

section Place

variable (line : TabularLine) (device name : String)

theorem exists_replaces_iff :
    (∃ e, line.recorded? = some e ∧ e.isAt device name = true ∧ e.replaces = true) ↔
      (line.device = device ∧ line.name ≠ undocumented) ∧ line.isCodeOf name = true := by
  constructor
  · rintro ⟨e, he, hat, hreplaces⟩
    obtain ⟨rfl, rfl⟩ := Prod.mk.inj (Entry.isAt_iff.1 hat)
    obtain ⟨hdevice, -, hname, ⟨-, hcode⟩ | ⟨hnot, -⟩⟩ := recorded?_eq_some_iff.1 he
    · exact ⟨⟨hdevice.symm, hname⟩, hcode⟩
    · cases hreplaces.symm.trans hnot
  · rintro ⟨⟨rfl, hname⟩, hcode⟩
    refine ⟨⟨line.device, name, line.word, true⟩, ?_, Entry.isAt_iff.2 rfl, rfl⟩
    exact recorded?_eq_some_iff.2 ⟨rfl, rfl, hname, .inl ⟨rfl, hcode⟩⟩

theorem exists_givesWay_iff :
    (∃ e, line.recorded? = some e ∧ e.isAt device name = true ∧ (!e.replaces) = true) ↔
      (line.device = device ∧ line.name ≠ undocumented) ∧ line.isLabelled name = true := by
  constructor
  · rintro ⟨e, he, hat, hgives⟩
    obtain ⟨rfl, rfl⟩ := Prod.mk.inj (Entry.isAt_iff.1 hat)
    obtain ⟨hdevice, -, hname, ⟨hreplaces, -⟩ | ⟨-, hlabel⟩⟩ := recorded?_eq_some_iff.1 he
    · rw [hreplaces] at hgives
      cases hgives
    · exact ⟨⟨hdevice.symm, hname⟩, hlabel⟩
  · rintro ⟨⟨rfl, hname⟩, hlabel⟩
    refine ⟨⟨line.device, name, line.word, false⟩, ?_, Entry.isAt_iff.2 rfl, rfl⟩
    exact recorded?_eq_some_iff.2 ⟨rfl, rfl, hname, .inr ⟨rfl, hlabel⟩⟩

end Place

end TabularLine

namespace Tabular

/-- The lines of a device that do not have the name for attributes without documentation. -/
def documented (device : String) (lines : List TabularLine) : List TabularLine :=
  lines.filter fun line => line.device = device ∧ line.name ≠ TabularLine.undocumented

/-- The first entry for a place that is of some kind has the value of the first line that gives an
entry of that kind. -/
theorem find?_entries {device name : String} {kind : Entry → Bool} {gives : TabularLine → Bool}
    (h : ∀ line : TabularLine,
      (∃ e, line.recorded? = some e ∧ e.isAt device name = true ∧ kind e = true) ↔
        (line.device = device ∧ line.name ≠ TabularLine.undocumented) ∧ gives line = true)
    (lines : List TabularLine) :
    (((lines.filterMap TabularLine.recorded?).filter (Entry.isAt device name)).find? kind).map
        (·.value) =
      ((documented device lines).find? gives).map TabularLine.word := by
  have hgives : (fun line : TabularLine => line.recorded?.any fun e =>
      decide (e.isAt device name = true ∧ kind e = true)) = fun line => decide
        (decide (line.device = device ∧ line.name ≠ TabularLine.undocumented) = true ∧
          gives line = true) := by
    funext line
    rw [Bool.eq_iff_iff, Option.any_eq_true]
    simp only [decide_eq_true_eq]
    exact h line
  unfold documented
  rw [List.find?_filter, List.find?_filterMap, List.find?_filter, hgives]
  cases hfound : lines.find? _ with
  | none => rfl
  | some line =>
    obtain ⟨e, he, -⟩ := (h line).2 (by simpa using List.find?_some hfound)
    have hvalue : e.value = line.word := (TabularLine.recorded?_eq_some_iff.1 he).2.1
    rw [Option.bind_some, he, Option.map_some, Option.map_some, hvalue]

theorem value?_eq (table : Table) (device name : String) :
    (parse table).value? device name =
      (((documented device (lines table)).reverse.find? (·.isCodeOf name)).or
        ((documented device (lines table)).find? (·.isLabelled name))).map TabularLine.word := by
  have hlast := find?_entries (fun line => line.exists_replaces_iff device name)
    (lines table).reverse
  have hfirst := find?_entries (fun line => line.exists_givesWay_iff device name) (lines table)
  unfold documented at hlast ⊢
  rw [List.filterMap_reverse, List.filter_reverse, List.filter_reverse] at hlast
  rw [value?_parse, Entry.settleAll, Entry.foldl_settle, Option.none_or, entries, hlast, hfirst,
    Option.map_or]
  rfl

theorem pair?_eq (table : Table) (device : String) :
    (parse table).pair? device =
      ((documented device (lines table)).reverse.find? (·.codeNumber? = some 196)).bind
        TabularLine.normalized? := by
  have hrenews : (fun line : TabularLine => line.device == device && line.renewsPair) =
      fun line => decide (decide (line.device = device ∧ line.name ≠ TabularLine.undocumented) =
        true ∧ decide (line.codeNumber? = some 196) = true) := by
    funext line
    rw [Bool.eq_iff_iff, Bool.and_eq_true, TabularLine.renewsPair_iff, beq_iff_eq]
    simp only [decide_eq_true_eq, and_assoc]
  rw [pair?_parse, hrenews, documented, ← List.filter_reverse, List.find?_filter]

theorem contains_iff (table : Table) (device : String) :
    (parse table).contains device ↔ ∃ row ∈ table, 13 ≤ row.length ∧ row[0]? = some device := by
  rw [contains_parse]
  constructor
  · rintro ⟨line, hline, rfl⟩
    obtain ⟨row, hrow, hcolumns⟩ := List.mem_filterMap.1 hline
    obtain ⟨hlength, hdevice, -⟩ := TabularLine.ofRow?_eq_some_iff.1 hcolumns
    exact ⟨row, hrow, hlength, hdevice⟩
  · rintro ⟨row, hrow, hlength, hdevice⟩
    obtain ⟨line, hcolumns⟩ := TabularLine.exists_ofRow?_of_length hlength
    obtain ⟨-, hfirst, -⟩ := TabularLine.ofRow?_eq_some_iff.1 hcolumns
    exact ⟨line, List.mem_filterMap.2 ⟨row, hrow, hcolumns⟩,
      Option.some.inj (hfirst.symm.trans hdevice)⟩

/-- The section of a table in closed form. A row with thirteen words or more is a line, with its
columns where they are; it is about the attribute that the catalog has for its code, if the code is
a number below `2 ^ 32`. A device is there if a line begins with it. A name has the value of the
device's last line whose code the catalog knows by that name, and otherwise of its first line that
goes under the vendor's name; a value that is no number is zero. The pair is that of the last line
with code 196, if both of its columns are numbers. Lines with the name for attributes without
documentation do not count, but for the device. -/
theorem parse_by_precedence (table : Table) (device : String) :
    (∀ row line, TabularLine.ofRow? row = some line ↔ 13 ≤ row.length ∧
      row[0]? = some line.device ∧ row[3]? = some line.code ∧ row[4]? = some line.name ∧
      row[6]? = some line.value ∧ row[8]? = some line.threshold ∧ row[12]? = some line.raw) ∧
    (∀ (line : TabularLine) (code : Nat), line.codeNumber? = some code ↔
      Numeral.SpellsUnsigned 10 line.code.toList code ∧ code < 2 ^ 32) ∧
    (∀ (line : TabularLine) (a : Attribute), line.subject? = some a ↔
      ∃ code, line.codeNumber? = some code ∧ Attribute.ofCode? code line.name = some a) ∧
    ((parse table).contains device ↔ ∃ row ∈ table, 13 ≤ row.length ∧ row[0]? = some device) ∧
    (∀ name, (parse table).value? device name =
      (((documented device (lines table)).reverse.find? (·.isCodeOf name)).or
        ((documented device (lines table)).find? (·.isLabelled name))).map
          fun line => intOrZero name line.raw) ∧
    ∀ p, (parse table).pair? device = some p ↔
      ∃ line, (documented device (lines table)).reverse.find? (·.codeNumber? = some 196) =
          some line ∧
        decimal? line.value.toList = some p.value ∧
        decimal? line.threshold.toList = some p.threshold := by
  refine ⟨fun _ _ => TabularLine.ofRow?_eq_some_iff, fun _ _ => TabularLine.codeNumber?_eq_some_iff,
    fun _ _ => TabularLine.subject?_eq_some_iff, contains_iff table device, ?_, ?_⟩
  · intro name
    have hword : (fun line : TabularLine => intOrZero name line.raw) = TabularLine.word :=
      funext fun line => intOrZero_eq name line.raw
    rw [hword]
    exact value?_eq table device name
  · intro p
    rw [pair?_eq, Option.bind_eq_some_iff]
    simp only [TabularLine.normalized?_eq_some_iff]

end Tabular

end Telemetry

end DiskHealth
