import DiskHealth.Proofs.Telemetry.Conversion
import DiskHealth.Proofs.Telemetry.Entries
import DiskHealth.Proofs.Telemetry.Written

/-!
Tabular dumps of sections. A dump has a line for every attribute, under a code of the catalog or
under its own name, and lines that keep devices without attributes; `Prints` says which lines are a
dump of a section, in any order. Each line leaves the value of one attribute and no other
(`value?_of_mem_entries`), and only a line with code 196 the pair of its device, so a dump parses
back to its section, which is the main statement. `dump` is one dump of every section that has any.
-/

namespace DiskHealth

namespace Attribute

/-- The code of an attribute in tabular telemetry. -/
def code? : Attribute → Option Nat
  | reallocatedSectors => some 5
  | powerOnHours => some 9
  | spinRetries => some 10
  | powerCycles => some 12
  | endToEndErrors => some 184
  | uncorrectableErrors => some 187
  | commandTimeoutCounter => some 188
  | temperature => some 194
  | reallocatedEvents => some 196
  | pendingSectors => some 197
  | udmaCrcErrors | crcErrors => some 199
  | _ => none

/-- Whether a label beside the code stands for the attribute; only the shared code asks. -/
def Fits (label : String) : Attribute → Prop
  | udmaCrcErrors => label = udmaCrcLabel
  | crcErrors => label ≠ udmaCrcLabel
  | _ => True

theorem ofCode?_of_fits {a : Attribute} {code : Nat} {label : String} (hcode : a.code? = some code)
    (hfits : a.Fits label) : ofCode? code label = some a := by
  cases a <;> cases hcode <;> simp_all [Fits, ofCode?, sharedCrcCode]

theorem code?_lt {a : Attribute} {code : Nat} (h : a.code? = some code) : code < 200 := by
  cases a <;> cases h <;> decide

end Attribute

namespace Telemetry

open TabularLine (undocumented)

/-- A tabular line with just the thirteen columns. -/
structure DumpLine where
  device : String
  kind : String
  model : String
  code : String
  name : String
  flag : String
  value : String
  worst : String
  threshold : String
  category : String
  updated : String
  failed : String
  raw : String

namespace DumpLine

def row (line : DumpLine) : Row :=
  [line.device, line.kind, line.model, line.code, line.name, line.flag, line.value, line.worst,
    line.threshold, line.category, line.updated, line.failed, line.raw]

def columns (line : DumpLine) : TabularLine :=
  ⟨line.device, line.code, line.name, line.value, line.threshold, line.raw⟩

/-- How a line says which attribute of a reading it is about: the reallocated events with a pair by
their code and the pair, any other attribute by its code, or by its own name under code 0. -/
inductive Names (line : DumpLine) (r : Reading) : String → Prop where
  | paired {p : NormalizedPair} (hpair : r.reallocatedEvents = some p) (hcode : line.code = "196")
    (hname : line.name ≠ undocumented) (hvalue : line.value = Numeral.ofWord p.value)
    (hthreshold : line.threshold = Numeral.ofWord p.threshold) :
    Names line r Attribute.reallocatedEvents.name
  | coded {a : Attribute} {code : Nat} (hother : a ≠ .reallocatedEvents)
    (hcode : a.code? = some code) (htext : line.code = String.ofList (Numeral.ofNat code))
    (hfits : a.Fits line.name) (hname : line.name ≠ undocumented) : Names line r a.name
  | named (hcode : line.code = "0") (hname : line.name ≠ undocumented)
    (hplain : line.name = Attribute.reallocatedEvents.name → r.reallocatedEvents = none) :
    Names line r line.name

/-- A line gives an attribute of a reading its value, in decimal digits. -/
def Writes (line : DumpLine) (r : Reading) (name : String) (value : Int64) : Prop :=
  line.Names r name ∧ line.raw = Numeral.ofWord value

end DumpLine

/-- Some lines are a dump of a section: each is about a device of the section and writes one of its
attributes, or is a line without attribute that does not look like a header. Every attribute has a
line, and so has every device. -/
structure Prints (lines : List DumpLine) (s : Section) : Prop where
  sound : ∀ line ∈ lines, ∃ r, s.get? line.device = some r ∧
    (line.name = undocumented ∧ ¬Table.LooksLikeHeader line.row ∨
      ∃ name value, r.get? name = some value ∧ line.Writes r name value)
  attributes : ∀ device r name value, s.get? device = some r → r.get? name = some value →
    ∃ line ∈ lines, line.device = device ∧ line.Writes r name value
  devices : ∀ device r, s.get? device = some r → r.isEmpty = true →
    ∃ line ∈ lines, line.device = device

/-- A section that can be dumped: its devices and attributes have words for names, none is the name
of what is not documented, and a device with a pair has the attribute of the pair. -/
structure Printable (s : Section) : Prop where
  devices : ∀ e ∈ s.toList, Text.IsWord e.1.toList
  names : ∀ e ∈ s.toList, ∀ a ∈ e.2.attributes.toList, Text.IsWord a.1.toList ∧ a.1 ≠ undocumented
  pairs : ∀ e ∈ s.toList, e.2.reallocatedEvents.isSome = true →
    (e.2.value? .reallocatedEvents).isSome = true

namespace DumpLine

variable {line : DumpLine} {r : Reading} {name : String} {value : Int64}

theorem codeNumber?_ofNat {code : Nat} (h : code < 200)
    (htext : line.code = String.ofList (Numeral.ofNat code)) :
    line.columns.codeNumber? = some code := by
  have hsmall : code < 0x100000000 := by omega
  rw [TabularLine.codeNumber?, columns, htext, String.toList_ofList, Numeral.unsigned?_ofNat]
  simp [Option.filter, hsmall]

theorem subject?_of_code {code : Nat} (h : code < 200)
    (htext : line.code = String.ofList (Numeral.ofNat code)) :
    line.columns.subject? = Attribute.ofCode? code line.name := by
  rw [TabularLine.subject?, codeNumber?_ofNat h htext, Option.bind_some]
  rfl

theorem Names.exists_recorded? (h : line.Names r name) :
    ∃ replaces, line.columns.recorded? = some ⟨line.device, name, line.columns.word, replaces⟩ := by
  have hentry : ∀ a, line.name ≠ undocumented → line.columns.subject? = some a →
      line.columns.recorded? = some ⟨line.device, a.name, line.columns.word, true⟩ := by
    intro a hname hsubject
    simp only [TabularLine.recorded?, hsubject]
    exact if_neg hname
  cases h with
  | @paired p hpair hcode hname hvalue hthreshold =>
    exact ⟨true, hentry .reallocatedEvents hname (subject?_of_code (by decide : 196 < 200) hcode)⟩
  | @coded a code hother hcode htext hfits hname =>
    have hsubject := subject?_of_code (Attribute.code?_lt hcode) htext
    rw [Attribute.ofCode?_of_fits hcode hfits] at hsubject
    exact ⟨true, hentry a hname hsubject⟩
  | named hcode hname hplain =>
    have hsubject : line.columns.subject? = none := subject?_of_code (by decide : 0 < 200) hcode
    refine ⟨false, ?_⟩
    simp only [TabularLine.recorded?, hsubject]
    exact if_neg hname

/-- Only the line of the reallocated events of a device with a pair replaces the pair. -/
theorem Names.renewsPair_iff (h : line.Names r name) : line.columns.renewsPair = true ↔
    name = Attribute.reallocatedEvents.name ∧ r.reallocatedEvents.isSome = true := by
  have hrenews : line.columns.renewsPair = true ↔
      line.name ≠ undocumented ∧ line.columns.subject? = some .reallocatedEvents := by
    simp only [TabularLine.renewsPair, decide_eq_true_eq]
    rfl
  rw [hrenews]
  cases h with
  | @paired p hpair hcode hname hvalue hthreshold =>
    have hsubject : line.columns.subject? = some .reallocatedEvents :=
      subject?_of_code (by decide : 196 < 200) hcode
    simp [hname, hsubject, hpair]
  | @coded a code hother hcode htext hfits hname =>
    have hsubject := subject?_of_code (Attribute.code?_lt hcode) htext
    rw [Attribute.ofCode?_of_fits hcode hfits] at hsubject
    have hnames : a.name ≠ Attribute.reallocatedEvents.name := fun heq =>
      hother (Attribute.name_injective heq)
    simp [hsubject, hother, hnames]
  | named hcode hname hplain =>
    have hsubject : line.columns.subject? = none := subject?_of_code (by decide : 0 < 200) hcode
    simp only [hsubject, reduceCtorEq, and_false, false_iff, not_and]
    intro heq
    simp [hplain heq]

theorem Names.normalized? (h : line.Names r name) (hrenews : line.columns.renewsPair = true) :
    line.columns.normalized? = r.reallocatedEvents := by
  obtain ⟨hname, hsome⟩ := h.renewsPair_iff.1 hrenews
  cases h with
  | @paired p hpair hcode hname hvalue hthreshold =>
    rw [TabularLine.normalized?, columns, hvalue, hthreshold, decimal?_ofWord, decimal?_ofWord,
      hpair]
  | @coded a code hother hcode htext hfits hlabel =>
    exact absurd (Attribute.name_injective hname) hother
  | named hcode hlabel hplain =>
    rw [hplain hname] at hsome
    cases hsome

theorem Writes.word (h : line.Writes r name value) : line.columns.word = value := by
  rw [TabularLine.word, columns, h.2, decimal?_ofWord, Option.getD_some]

/-- A line that ends in a number is no header, whatever the name of its device. -/
theorem not_looksLikeHeader (h : line.raw = Numeral.ofWord value) :
    ¬Table.LooksLikeHeader line.row := by
  rintro ⟨-, word, hword, hsuffix⟩
  have hlast : word = line.raw := (Option.mem_some.1 hword).symm
  have hmem : '>' ∈ line.raw.toList := hlast ▸ hsuffix.subset (by decide : '>' ∈ ['>', '>', '>'])
  rw [h, Numeral.ofWord, String.toList_ofList] at hmem
  rcases Numeral.mem_ofInt hmem with heq | hdigit
  · cases heq
  · cases hdigit

end DumpLine

/-! ### What a dump parses to -/

section Parse

variable {s : Section} {lines : List DumpLine}

theorem lines_map_row (lines : List DumpLine) :
    Tabular.lines (lines.map DumpLine.row) = lines.map DumpLine.columns := by
  rw [Tabular.lines, List.filterMap_map]
  exact congrFun List.filterMap_eq_map lines

theorem value?_eq_some_iff {device name : String} {value : Int64} :
    s.value? device name = some value ↔ ∃ r, s.get? device = some r ∧ r.get? name = some value := by
  rw [Section.value?, Option.bind_eq_some_iff]

/-- Every entry of a dump is a value of its section. -/
theorem value?_of_mem_entries (h : Prints lines s) {e : Entry}
    (he : e ∈ Tabular.entries (lines.map DumpLine.row)) :
    s.value? e.device e.name = some e.value := by
  rw [Tabular.entries, lines_map_row, List.filterMap_map] at he
  obtain ⟨line, hline, hentry⟩ := List.mem_filterMap.1 he
  obtain ⟨r, hr, ⟨hname, -⟩ | ⟨name, value, hvalue, hwrites⟩⟩ := h.sound line hline
  · have hnone : line.columns.recorded? = none := if_pos hname
    cases hnone.symm.trans hentry
  · obtain ⟨replaces, hfound⟩ := hwrites.1.exists_recorded?
    cases hfound.symm.trans hentry
    rw [hwrites.word]
    exact value?_eq_some_iff.2 ⟨r, hr, hvalue⟩

/-- Every value of a section is an entry of its dump. -/
theorem exists_entry_of_value? (h : Prints lines s) {device name : String} {value : Int64}
    (hvalue : s.value? device name = some value) :
    ∃ e ∈ Tabular.entries (lines.map DumpLine.row), Entry.isAt device name e = true := by
  obtain ⟨r, hr, hvalue⟩ := value?_eq_some_iff.1 hvalue
  obtain ⟨line, hline, rfl, hwrites⟩ := h.attributes device r name value hr hvalue
  obtain ⟨replaces, hentry⟩ := hwrites.1.exists_recorded?
  refine ⟨⟨line.device, name, line.columns.word, replaces⟩, ?_, Entry.isAt_iff.2 rfl⟩
  rw [Tabular.entries, lines_map_row, List.filterMap_map]
  exact List.mem_filterMap.2 ⟨line, hline, hentry⟩

theorem value?_parse_dump (h : Prints lines s) (device name : String) :
    (Tabular.parse (lines.map DumpLine.row)).value? device name = s.value? device name := by
  have hsame : ∀ e ∈ Tabular.entries (lines.map DumpLine.row), Entry.isAt device name e = true →
      s.value? device name = some e.value := by
    intro e he hat
    have hplace := Entry.isAt_iff.1 hat
    rw [← (Prod.mk.inj hplace).1, ← (Prod.mk.inj hplace).2]
    exact value?_of_mem_entries h he
  rw [Tabular.value?_parse]
  cases hvalue : s.value? device name with
  | some value =>
    refine Entry.settleAll_of_forall (exists_entry_of_value? h hvalue) fun e he hat => ?_
    exact Option.some.inj ((hsame e he hat).symm.trans hvalue)
  | none =>
    refine Entry.settleAll_of_elsewhere fun e he => ?_
    rw [Bool.eq_false_iff]
    intro hat
    cases (hsame e he hat).symm.trans hvalue

theorem Prints.exists_line (h : Prints lines s) {device : String} {r : Reading}
    (hr : s.get? device = some r) : ∃ line ∈ lines, line.device = device := by
  cases hempty : r.isEmpty with
  | true => exact h.devices device r hr hempty
  | false =>
    obtain ⟨⟨name, value⟩, rest, hattributes⟩ := List.exists_cons_of_ne_nil
      (by simpa [Reading.isEmpty, SortedMap.isEmpty] using hempty : r.attributes.toList ≠ [])
    have hvalue : r.get? name = some value :=
      SortedMap.mem_toList_iff.1 (hattributes ▸ List.mem_cons_self)
    obtain ⟨line, hline, hdevice, -⟩ := h.attributes device r name value hr hvalue
    exact ⟨line, hline, hdevice⟩

theorem contains_parse_dump (h : Prints lines s) (device : String) :
    (Tabular.parse (lines.map DumpLine.row)).contains device = s.contains device := by
  rw [Bool.eq_iff_iff, Tabular.contains_parse, lines_map_row]
  constructor
  · rintro ⟨_, hmem, rfl⟩
    obtain ⟨line, hline, rfl⟩ := List.mem_map.1 hmem
    obtain ⟨r, hr, -⟩ := h.sound line hline
    exact Option.isSome_iff_exists.2 ⟨r, hr⟩
  · intro hcontains
    obtain ⟨r, hr⟩ := Option.isSome_iff_exists.1 hcontains
    obtain ⟨line, hline, hdevice⟩ := h.exists_line hr
    exact ⟨line.columns, List.mem_map_of_mem hline, hdevice⟩

/-- A line that replaces the pair of its device has the pair of the section. -/
theorem Prints.normalized? (h : Prints lines s) {line : DumpLine} (hline : line ∈ lines)
    (hrenews : line.columns.renewsPair = true) :
    line.columns.normalized? = s.pair? line.device := by
  obtain ⟨r, hr, ⟨hname, -⟩ | ⟨name, value, -, hwrites⟩⟩ := h.sound line hline
  · simp [TabularLine.renewsPair, DumpLine.columns, hname] at hrenews
  · rw [hwrites.1.normalized? hrenews, Section.pair?, hr, Option.bind_some]

/-- A device with a pair has the attribute of the pair, and so a line that replaces the pair. -/
theorem Prints.exists_renewsPair (hs : Printable s) (h : Prints lines s) {device : String}
    {p : NormalizedPair} (hpair : s.pair? device = some p) :
    ∃ line ∈ lines, line.device = device ∧ line.columns.renewsPair = true := by
  obtain ⟨r, hr, hp⟩ := Option.bind_eq_some_iff.1 hpair
  have hsome : r.reallocatedEvents.isSome = true := by rw [hp]; rfl
  obtain ⟨value, hvalue⟩ := Option.isSome_iff_exists.1
    (hs.pairs (device, r) (SortedMap.mem_toList_iff.2 hr) hsome)
  obtain ⟨line, hline, hdevice, hwrites⟩ := h.attributes device r _ value hr hvalue
  exact ⟨line, hline, hdevice, hwrites.1.renewsPair_iff.2 ⟨rfl, hsome⟩⟩

theorem pair?_parse_dump (hs : Printable s) (h : Prints lines s) (device : String) :
    (Tabular.parse (lines.map DumpLine.row)).pair? device = s.pair? device := by
  rw [Tabular.pair?_parse, lines_map_row]
  cases hfind : (lines.map DumpLine.columns).reverse.find? fun line =>
      line.device == device && line.renewsPair with
  | some columns =>
    have hmem := List.mem_reverse.1 (List.mem_of_find?_eq_some hfind)
    obtain ⟨line, hline, rfl⟩ := List.mem_map.1 hmem
    have hfound := List.find?_some hfind
    simp only [Bool.and_eq_true, beq_iff_eq] at hfound
    obtain ⟨rfl, hrenews⟩ := hfound
    exact h.normalized? hline hrenews
  | none =>
    cases hpair : s.pair? device with
    | none => rfl
    | some p =>
      obtain ⟨line, hline, hdevice, hrenews⟩ := h.exists_renewsPair hs hpair
      have hnone := List.find?_eq_none.1 hfind line.columns
        (List.mem_reverse.2 (List.mem_map_of_mem hline))
      have hcolumns : line.columns.device = device := hdevice
      simp [hcolumns, hrenews] at hnone

theorem parse_dump (hs : Printable s) (h : Prints lines s) :
    Tabular.parse (lines.map DumpLine.row) = s :=
  Section.ext_view (contains_parse_dump h) (value?_parse_dump h) (pair?_parse_dump hs h)

theorem parseTable_dump (hs : Printable s) (h : Prints lines s) :
    parseTable (lines.map DumpLine.row) = s := by
  have htabular : tabularRows (lines.map DumpLine.row) = lines.map DumpLine.row := by
    refine List.filter_eq_self.2 fun row hrow => ?_
    obtain ⟨line, -, rfl⟩ := List.mem_map.1 hrow
    rfl
  have hkeyValue : keyValueRows (lines.map DumpLine.row) = [] := by
    refine List.filter_eq_nil_iff.2 fun row hrow => ?_
    obtain ⟨line, -, rfl⟩ := List.mem_map.1 hrow
    simp [DumpLine.row]
  rw [parseTable_eq, htabular, hkeyValue, parse_dump hs h]
  rfl

end Parse

/-! ### Written dumps -/

/-- A line of a dump, and a text of one line with its words. -/
structure WrittenLine where
  line : DumpLine
  text : List Char
  newline_notMem : '\n' ∉ text
  spelled : Text.Spelled (line.row.map (·.toList)) text

theorem WrittenLine.fields_text (w : WrittenLine) : Text.fields w.text = w.line.row := by
  rw [Text.fields, Text.words_of_spelled w.spelled, List.map_map]
  exact List.map_id'' (fun word => String.ofList_toList) w.line.row

theorem Prints.not_looksLikeHeader {s : Section} {lines : List DumpLine} (h : Prints lines s)
    {line : DumpLine} (hline : line ∈ lines) : ¬Table.LooksLikeHeader line.row := by
  obtain ⟨r, -, ⟨-, hheader⟩ | ⟨name, value, -, hwrites⟩⟩ := h.sound line hline
  · exact hheader
  · exact DumpLine.not_looksLikeHeader hwrites.2

theorem parseOutput_written {s : Section} (hs : Printable s) {written : List WrittenLine}
    (h : Prints (written.map (·.line)) s) :
    parseOutput (Table.sectionText (written.map (·.text))) = s := by
  have hrows : (written.map (·.text)).map Text.fields =
      (written.map (·.line)).map DumpLine.row := by
    rw [List.map_map, List.map_map]
    exact List.map_congr_left fun w _ => w.fields_text
  have htexts : ∀ text ∈ written.map (·.text), ∃ w ∈ written, w.text = text :=
    fun _ => List.mem_map.1
  rw [parseOutput, Table.ofSection_sectionText, hrows, parseTable_dump hs h]
  · intro text htext
    obtain ⟨w, -, rfl⟩ := htexts text htext
    exact w.newline_notMem
  · intro text htext
    obtain ⟨w, -, rfl⟩ := htexts text htext
    rw [w.fields_text]
    exact List.cons_ne_nil _ _
  · intro text htext
    obtain ⟨w, hw, rfl⟩ := htexts text htext
    rw [w.fields_text]
    exact h.not_looksLikeHeader (List.mem_map_of_mem hw)

/-! ### A dump of every section -/

/-- A line with a dash in every column that no reader uses. -/
def DumpLine.ofColumns (columns : TabularLine) : DumpLine where
  device := columns.device
  kind := "-"
  model := "-"
  code := columns.code
  name := columns.name
  flag := "-"
  value := columns.value
  worst := "-"
  threshold := columns.threshold
  category := "-"
  updated := "-"
  failed := "-"
  raw := columns.raw

/-- The line of an attribute, under its own name. -/
def lineFor (device : String) (r : Reading) (name : String) (value : Int64) : DumpLine :=
  match if name = Attribute.reallocatedEvents.name then r.reallocatedEvents else none with
  | some p =>
    .ofColumns ⟨device, "196", name, Numeral.ofWord p.value, Numeral.ofWord p.threshold,
      Numeral.ofWord value⟩
  | none => .ofColumns ⟨device, "0", name, "-", "-", Numeral.ofWord value⟩

/-- The line of a device without attributes. -/
def emptyLine (device : String) : DumpLine :=
  .ofColumns ⟨device, "0", undocumented, "-", "-", Numeral.ofWord 0⟩

def dump (s : Section) : List DumpLine :=
  s.toList.flatMap fun e =>
    (if e.2.isEmpty then [emptyLine e.1] else []) ++
      e.2.attributes.toList.map fun a => lineFor e.1 e.2 a.1 a.2

/-- A line as text, with single spaces between its words. -/
def DumpLine.text (line : DumpLine) : List Char :=
  [' '].intercalate (line.row.map (·.toList))

theorem mem_dump_iff {s : Section} {line : DumpLine} :
    line ∈ dump s ↔ ∃ device r, s.get? device = some r ∧
      (r.isEmpty = true ∧ line = emptyLine device ∨
        ∃ name value, r.get? name = some value ∧ line = lineFor device r name value) := by
  simp only [dump, List.mem_flatMap, List.mem_append, List.mem_map, Prod.exists,
    SortedMap.mem_toList_iff, Reading.get?]
  grind

theorem device_lineFor (device : String) (r : Reading) (name : String) (value : Int64) :
    (lineFor device r name value).device = device := by
  unfold lineFor
  split <;> rfl

theorem writes_lineFor (device : String) (r : Reading) {name : String} (value : Int64)
    (h : name ≠ undocumented) : (lineFor device r name value).Writes r name value := by
  unfold lineFor
  by_cases hname : name = Attribute.reallocatedEvents.name
  · cases hpair : r.reallocatedEvents with
    | some p =>
      subst hname
      exact ⟨.paired hpair rfl h rfl rfl, rfl⟩
    | none =>
      rw [if_pos hname]
      exact ⟨.named rfl h fun _ => hpair, rfl⟩
  · rw [if_neg hname]
    exact ⟨.named rfl h fun heq => absurd heq hname, rfl⟩

theorem DumpLine.isWord_ofColumns {columns : TabularLine}
    (h : ∀ word ∈ [columns.device, columns.code, columns.name, columns.value, columns.threshold,
      columns.raw], Text.IsWord word.toList) :
    ∀ word ∈ (ofColumns columns).row, Text.IsWord word.toList := by
  have hdash : Text.IsWord "-".toList := by decide
  simp_all [row, ofColumns]

section Dump

variable {s : Section} (hs : Printable s)

include hs

theorem Printable.name {device : String} {r : Reading} {name : String} {value : Int64}
    (hr : s.get? device = some r) (hvalue : r.get? name = some value) :
    Text.IsWord name.toList ∧ name ≠ undocumented :=
  hs.names (device, r) (SortedMap.mem_toList_iff.2 hr) (name, value)
    (SortedMap.mem_toList_iff.2 hvalue)

theorem prints_dump : Prints (dump s) s where
  sound line hline := by
    obtain ⟨device, r, hr, ⟨-, rfl⟩ | ⟨name, value, hvalue, rfl⟩⟩ := mem_dump_iff.1 hline
    · have hraw : (emptyLine device).raw = Numeral.ofWord 0 := rfl
      exact ⟨r, hr, .inl ⟨rfl, DumpLine.not_looksLikeHeader hraw⟩⟩
    · refine ⟨r, by rw [device_lineFor, hr], .inr ⟨name, value, hvalue, ?_⟩⟩
      exact writes_lineFor device r value (hs.name hr hvalue).2
  attributes device r name value hr hvalue :=
    ⟨lineFor device r name value, mem_dump_iff.2 ⟨device, r, hr, .inr ⟨name, value, hvalue, rfl⟩⟩,
      device_lineFor .., writes_lineFor device r value (hs.name hr hvalue).2⟩
  devices device r hr hempty :=
    ⟨emptyLine device, mem_dump_iff.2 ⟨device, r, hr, .inl ⟨hempty, rfl⟩⟩, rfl⟩

theorem isWord_of_mem_dump {line : DumpLine} (hline : line ∈ dump s) :
    ∀ word ∈ line.row, Text.IsWord word.toList := by
  have hfixed : ∀ word ∈ ["0", "196", "-", undocumented], Text.IsWord word.toList := by decide
  obtain ⟨device, r, hr, ⟨-, rfl⟩ | ⟨name, value, hvalue, rfl⟩⟩ := mem_dump_iff.1 hline
  · have hdevice := hs.devices (device, r) (SortedMap.mem_toList_iff.2 hr)
    exact DumpLine.isWord_ofColumns (by simp_all [isWord_ofWord])
  · have hdevice := hs.devices (device, r) (SortedMap.mem_toList_iff.2 hr)
    have hname := (hs.name hr hvalue).1
    unfold lineFor
    split <;> exact DumpLine.isWord_ofColumns (by simp_all [isWord_ofWord])

end Dump

/-- A section that can be dumped comes back from the text of any dump of it, whatever the order of
the lines, the blanks between their words and the columns that no reader uses; and it has a dump. -/
theorem parseOutput_dump (s : Section) (hs : Printable s) :
    (∀ written : List WrittenLine, Prints (written.map (·.line)) s →
      parseOutput (Table.sectionText (written.map (·.text))) = s) ∧
    Prints (dump s) s ∧
    parseOutput (Table.sectionText ((dump s).map DumpLine.text)) = s := by
  refine ⟨fun written h => parseOutput_written hs h, prints_dump hs, ?_⟩
  have hwords : ∀ line ∈ dump s, ∀ w ∈ line.row.map (·.toList), Text.IsWord w := by
    intro line hline w hw
    obtain ⟨word, hword, rfl⟩ := List.mem_map.1 hw
    exact isWord_of_mem_dump hs hline word hword
  let written : List WrittenLine := (dump s).pmap
    (fun line h => ⟨line, line.text, Text.newline_notMem_intercalate h, Text.spelled_intercalate h⟩)
    hwords
  have hlines : written.map (·.line) = dump s := by
    simp [written, List.map_pmap]
  have htexts : written.map (·.text) = (dump s).map DumpLine.text := by
    simp [written, List.map_pmap]
  rw [← htexts]
  exact parseOutput_written hs (by rw [hlines]; exact prints_dump hs)

/-- Two disks, one of them without attributes. -/
def twoDisks : Section where
  toList := [
    ("/dev/sda", {
      attributes := ⟨[("Reallocated_Events", 3), ("Seek_Drift", -7)], by decide⟩
      reallocatedEvents := some ⟨100, 36⟩ }),
    ("/dev/sdb", ∅)]
  ascending := by decide

def twoDisksText : String :=
  "<<<smart>>>\n" ++
  "/dev/sda - - 196 Reallocated_Events - 100 - 36 - - - 3\n" ++
  "/dev/sda - - 0 Seek_Drift - - - - - - - -7\n" ++
  "/dev/sdb - - 0 Unknown_Attribute - - - - - - - 0\n"

theorem parseOutput_dump_twoDisks :
    Prints (dump twoDisks) twoDisks ∧ parseOutput twoDisksText = twoDisks := by
  have hs : Printable twoDisks := ⟨by decide +kernel, by decide +kernel, by decide +kernel⟩
  have htext : Table.sectionText ((dump twoDisks).map DumpLine.text) = twoDisksText := by
    decide +kernel
  obtain ⟨-, hprints, hparse⟩ := parseOutput_dump twoDisks hs
  exact ⟨hprints, htext ▸ hparse⟩

end Telemetry

end DiskHealth
