import DiskHealth.Proofs.Telemetry.Dialects
import DiskHealth.Proofs.Telemetry.Headings

/-!
What rows record. A row gives at most one entry: a value, with the device and the name it goes
under. An entry takes the place of an earlier value or gives way to it, as its dialect has it, so
what stands under a name in the end depends on the entries for that name alone (`value?_parse`).
The devices and the pairs of a section have closed forms of their own.
-/

namespace DiskHealth.Telemetry

/-- A value that a row gives, and the place where it goes. -/
structure Entry where
  device : String
  name : String
  value : Int64
  /-- Whether the value takes the place of an earlier one, and does not give way to it. -/
  replaces : Bool
  deriving DecidableEq, Repr

namespace Entry

def isAt (device name : String) (e : Entry) : Bool :=
  e.device == device && e.name == name

/-- What a place holds after an entry for it. -/
def settle (old : Option Int64) (e : Entry) : Option Int64 :=
  if e.replaces then some e.value else old.or (some e.value)

/-- What a place that held `old` holds after some entries. -/
def settleAll (device name : String) (old : Option Int64) (entries : List Entry) : Option Int64 :=
  (entries.filter (isAt device name)).foldl settle old

variable {device name : String} {old : Option Int64} {entries : List Entry}

theorem isAt_iff {e : Entry} : isAt device name e = true ↔ (e.device, e.name) = (device, name) := by
  simp [isAt]

theorem isSome_settle (old : Option Int64) (e : Entry) : (settle old e).isSome = true := by
  unfold settle
  cases old <;> split <;> rfl

theorem settleAll_append (before after : List Entry) :
    settleAll device name old (before ++ after) =
      settleAll device name (settleAll device name old before) after := by
  unfold settleAll
  rw [List.filter_append, List.foldl_append]

theorem settleAll_of_elsewhere (h : ∀ e ∈ entries, isAt device name e = false) :
    settleAll device name old entries = old := by
  have hnone : entries.filter (isAt device name) = [] := by simpa using h
  rw [settleAll, hnone, List.foldl_nil]

/-- Entries that agree on a value leave it in an empty place, if there are any. -/
theorem settleAll_of_forall {w : Int64} (hex : ∃ e ∈ entries, isAt device name e = true)
    (hall : ∀ e ∈ entries, isAt device name e = true → e.value = w) :
    settleAll device name none entries = some w := by
  have hrun : ∀ l : List Entry, (∀ e ∈ l, e.value = w) → ∀ old : Option Int64,
      (l ≠ [] ∧ old = none) ∨ old = some w → l.foldl settle old = some w := by
    intro l
    induction l with
    | nil =>
      intro _ old hold
      rcases hold with ⟨hne, -⟩ | rfl
      · exact absurd rfl hne
      · rfl
    | cons e rest ih =>
      intro hl old hold
      refine ih (fun x hx => hl x (List.mem_cons_of_mem _ hx)) _ (.inr ?_)
      have hw : e.value = w := hl e List.mem_cons_self
      unfold settle
      rcases hold with ⟨-, rfl⟩ | rfl <;> split <;> simp [hw]
  obtain ⟨e, he, hat⟩ := hex
  refine hrun _ (fun x hx => ?_) none (.inl ⟨?_, rfl⟩)
  · obtain ⟨hx, hx'⟩ := List.mem_filter.1 hx
    exact hall x hx hx'
  · exact List.ne_nil_of_mem (List.mem_filter.2 ⟨he, hat⟩)

/-- A place holds something after some entries if it did before, or if one of them is for it. -/
theorem isSome_settleAll :
    (settleAll device name old entries).isSome =
      (old.isSome || entries.any (isAt device name)) := by
  unfold settleAll
  induction entries generalizing old with
  | nil => simp
  | cons e rest ih =>
    cases h : isAt device name e with
    | true => simp [h, ih, isSome_settle]
    | false => simp [h, ih]

end Entry

/-! ### Tabular rows -/

theorem intOrZero_eq (field value : String) :
    intOrZero field value = (decimal? value.toList).getD 0 := by
  unfold intOrZero parseInt
  cases decimal? value.toList <;> rfl

namespace TabularLine

/-- The value of a line, zero if its last column is no number. -/
def word (line : TabularLine) : Int64 :=
  (decimal? line.raw.toList).getD 0

/-- What a line records: the attribute of a known code anew, any other unless it is there. -/
def recorded? (line : TabularLine) : Option Entry :=
  if line.name = undocumented then none
  else
    match line.subject? with
    | some a => some ⟨line.device, a.name, line.word, true⟩
    | none => some ⟨line.device, line.name, line.word, false⟩

/-- Whether a line replaces the pair of its device. -/
def renewsPair (line : TabularLine) : Bool :=
  line.name ≠ undocumented ∧ line.subject? = some .reallocatedEvents

theorem device_of_recorded? {line : TabularLine} {e : Entry} (h : line.recorded? = some e) :
    e.device = line.device := by
  unfold recorded? at h
  split at h
  · cases h
  · split at h <;> cases h <;> rfl

theorem get?_record (line : TabularLine) (r : Reading) (name : String) :
    (line.record r).get? name =
      Entry.settleAll line.device name (r.get? name) line.recorded?.toList := by
  unfold record recorded?
  split
  · rfl
  · cases line.subject? with
    | some a =>
      have hset : (r.set a.name (intOrZero a.name line.raw)).get? name =
          if a.name = name then some line.word else r.get? name := by
        rw [Reading.get?_set, intOrZero_eq]
        rfl
      by_cases hn : a.name = name <;> by_cases ha : a = .reallocatedEvents <;>
        simp_all [Entry.settleAll, Entry.isAt, Entry.settle, Reading.get?]
    | none =>
      rw [Reading.get?_setIfAbsent, intOrZero_eq]
      by_cases hn : line.name = name
      · simp [Entry.settleAll, Entry.isAt, Entry.settle, word, hn]
      · simp [Entry.settleAll, Entry.isAt, hn]

theorem pair_record (line : TabularLine) (r : Reading) :
    (line.record r).reallocatedEvents =
      if line.renewsPair then line.normalized? else r.reallocatedEvents := by
  unfold record renewsPair
  by_cases hname : line.name = undocumented
  · simp [hname]
  · cases line.subject? with
    | some a => by_cases ha : a = .reallocatedEvents <;> simp [hname, ha, Reading.set]
    | none => cases hc : r.contains line.name <;> simp [hname, Reading.setIfAbsent, Reading.set, hc]

end TabularLine

namespace Tabular

def lines (table : Table) : List TabularLine :=
  table.filterMap TabularLine.ofRow?

def entries (table : Table) : List Entry :=
  (lines table).filterMap TabularLine.recorded?

theorem parse_eq (table : Table) :
    parse table = (lines table).foldl (fun s line => s.modify line.device line.record) ∅ := by
  unfold parse lines
  rw [List.foldl_filterMap]
  congr 1
  funext s row
  unfold feed
  cases TabularLine.ofRow? row <;> rfl

theorem value?_modify_record (s : Section) (line : TabularLine) (device name : String) :
    (s.modify line.device line.record).value? device name =
      Entry.settleAll device name (s.value? device name) line.recorded?.toList := by
  rw [Section.value?_modify]
  by_cases h : line.device = device
  · rw [if_pos h, ← h, TabularLine.get?_record, Section.value?_eq_reading]
  · rw [if_neg h, Entry.settleAll_of_elsewhere]
    intro e he
    have hdevice := TabularLine.device_of_recorded? (Option.mem_toList.1 he)
    simp [Entry.isAt, hdevice, h]

theorem value?_parse (table : Table) (device name : String) :
    (parse table).value? device name = Entry.settleAll device name none (entries table) := by
  have hrun : ∀ (l : List TabularLine) (s : Section),
      (l.foldl (fun s line => s.modify line.device line.record) s).value? device name =
        Entry.settleAll device name (s.value? device name) (l.filterMap TabularLine.recorded?) := by
    intro l
    induction l with
    | nil => exact fun s => rfl
    | cons line rest ih =>
      intro s
      have hentries : (line :: rest).filterMap TabularLine.recorded? =
          line.recorded?.toList ++ rest.filterMap TabularLine.recorded? := by
        cases h : line.recorded? <;> simp [h]
      rw [List.foldl_cons, ih, value?_modify_record, hentries, Entry.settleAll_append]
  rw [parse_eq, hrun]
  rfl

theorem contains_parse (table : Table) (device : String) :
    (parse table).contains device ↔ ∃ line ∈ lines table, line.device = device := by
  have hrun : ∀ (l : List TabularLine) (s : Section),
      (l.foldl (fun s line => s.modify line.device line.record) s).contains device ↔
        (∃ line ∈ l, line.device = device) ∨ s.contains device := by
    intro l
    induction l with
    | nil => simp
    | cons line rest ih =>
      intro s
      rw [List.foldl_cons, ih, Section.contains_modify]
      simp [or_left_comm, or_assoc]
  rw [parse_eq, hrun]
  simp

/-- A device has the pair of its last line that renews it. -/
theorem pair?_parse (table : Table) (device : String) :
    (parse table).pair? device =
      ((lines table).reverse.find? fun line => line.device == device && line.renewsPair).bind
        TabularLine.normalized? := by
  have hrun : ∀ (l : List TabularLine) (s : Section),
      (l.foldl (fun s line => s.modify line.device line.record) s).pair? device =
        (l.reverse.find? fun line => line.device == device && line.renewsPair).elim
          (s.pair? device) TabularLine.normalized? := by
    intro l
    induction l with
    | nil => exact fun s => rfl
    | cons line rest ih =>
      intro s
      rw [List.foldl_cons, ih, Section.pair?_modify, TabularLine.pair_record,
        ← Section.pair?_eq_reading, List.reverse_cons, List.find?_append]
      cases rest.reverse.find? fun line => line.device == device && line.renewsPair with
      | some last => rfl
      | none => by_cases hd : line.device = device <;> cases hr : line.renewsPair <;> simp [hd, hr]
  rw [parse_eq, hrun]
  cases (lines table).reverse.find? fun line => line.device == device && line.renewsPair <;> rfl

end Tabular

/-! ### Key/value rows -/

namespace KeyValue

/-- The device whose record a row starts or resumes. -/
def device? (row : Row) : Option String :=
  row.head?.filter namesDevice

/-- The device whose record is open after some rows, which is the last that a row names. -/
def openAfter (rows : Table) : Option String :=
  rows.reverse.findSome? device?

/-- The key and the value of a row. -/
def pair? (row : Row) : Option (String × Int64) :=
  (parsePair (" ".intercalate row)).toOption

/-- What a row records while a device's record may be open. -/
def recorded? (current : Option String) (row : Row) : Option Entry :=
  match device? row, current, pair? row with
  | none, some device, some (key, value) => some ⟨device, key, value, true⟩
  | _, _, _ => none

def entriesFrom (current : Option String) : Table → List Entry
  | [] => []
  | row :: rest => (recorded? current row).toList ++ entriesFrom ((device? row).or current) rest

def entries (table : Table) : List Entry :=
  entriesFrom none table

theorem device?_cons (first : String) (rest : Row) :
    device? (first :: rest) = if namesDevice first then some first else none := rfl

theorem feed_of_device (state : State) {row : Row} {device : String}
    (h : device? row = some device) :
    feed state row = { readings := state.readings.ensure device, current := some device } := by
  cases row with
  | nil => cases h
  | cons first rest =>
    rw [device?_cons] at h
    split at h
    · rename_i hfirst
      cases h
      simp only [feed, hfirst, if_true]
    · cases h

theorem recorded?_eq_some_iff {current : Option String} {row : Row} {e : Entry} :
    recorded? current row = some e ↔ device? row = none ∧ current = some e.device ∧
      pair? row = some (e.name, e.value) ∧ e.replaces = true := by
  obtain ⟨device, name, value, replaces⟩ := e
  unfold recorded?
  cases device? row with
  | some _ => simp
  | none =>
    cases current with
    | none => simp
    | some d =>
      cases pair? row with
      | none => simp
      | some p => simp [Prod.ext_iff, eq_comm, and_assoc]

theorem feed_of_noDevice (state : State) {row : Row} (h : device? row = none) :
    feed state row =
      match recorded? state.current row with
      | some e =>
        { state with readings := state.readings.modify e.device fun r => r.set e.name e.value }
      | none => state := by
  cases row with
  | nil =>
    have hpair : pair? [] = none := rfl
    cases state.current <;> simp [feed, recorded?, h, hpair]
  | cons first rest =>
    have hfirst : namesDevice first = false := by
      rw [device?_cons] at h
      split at h
      · cases h
      · rename_i hn
        simpa using hn
    cases hc : state.current with
    | none => simp [feed, hfirst, recorded?, hc]
    | some device =>
      simp only [feed, hfirst, recorded?, h, hc, pair?]
      cases parsePair (" ".intercalate (first :: rest)) <;> rfl

theorem current_feed (state : State) (row : Row) :
    (feed state row).current = (device? row).or state.current := by
  cases h : device? row with
  | some device => rw [feed_of_device state h]; rfl
  | none =>
    rw [feed_of_noDevice state h]
    cases recorded? state.current row <;> rfl

theorem value?_feed (state : State) (row : Row) (device name : String) :
    (feed state row).readings.value? device name =
      Entry.settleAll device name (state.readings.value? device name)
        (recorded? state.current row).toList := by
  cases h : device? row with
  | some d =>
    have hnone : recorded? state.current row = none := by simp [recorded?, h]
    rw [feed_of_device state h, hnone, Section.value?_ensure]
    rfl
  | none =>
    rw [feed_of_noDevice state h]
    cases he : recorded? state.current row with
    | none => rfl
    | some e =>
      obtain ⟨-, -, -, hreplaces⟩ := recorded?_eq_some_iff.1 he
      simp only [Section.value?_modify, Reading.get?_set, ← Section.value?_eq_reading]
      by_cases hd : e.device = device <;> by_cases hn : e.name = name <;>
        simp [Entry.settleAll, Entry.isAt, Entry.settle, hd, hn, hreplaces]

theorem value?_parse (table : Table) (device name : String) :
    (parse table).value? device name = Entry.settleAll device name none (entries table) := by
  have hrun : ∀ state : State, (table.foldl feed state).readings.value? device name =
      Entry.settleAll device name (state.readings.value? device name)
        (entriesFrom state.current table) := by
    induction table with
    | nil => exact fun state => rfl
    | cons row rest ih =>
      intro state
      rw [List.foldl_cons, ih, value?_feed, current_feed, entriesFrom, Entry.settleAll_append]
  exact hrun {}

theorem contains_parse (table : Table) (device : String) :
    (parse table).contains device ↔ ∃ row ∈ table, device? row = some device := by
  have hrun : ∀ state : State,
      (∀ d, state.current = some d → state.readings.contains d = true) →
        ((table.foldl feed state).readings.contains device ↔
          (∃ row ∈ table, device? row = some device) ∨ state.readings.contains device) := by
    induction table with
    | nil => simp
    | cons row rest ih =>
      intro state hopen
      cases h : device? row with
      | some d =>
        rw [List.foldl_cons, feed_of_device state h, ih, Section.contains_ensure]
        · simp [h, or_left_comm, or_assoc]
        · intro d' hd'
          cases hd'
          simp [Section.contains_ensure]
      | none =>
        have hsame : ∀ d, (feed state row).readings.contains d = state.readings.contains d := by
          intro d
          rw [feed_of_noDevice state h]
          cases he : recorded? state.current row with
          | none => rfl
          | some e =>
            have hcontains := hopen e.device (recorded?_eq_some_iff.1 he).2.1
            simp only [Section.contains_modify]
            by_cases hd : e.device = d
            · rw [← hd, hcontains, Bool.or_true]
            · simp [hd]
        have hopen' : ∀ d, (feed state row).current = some d →
            (feed state row).readings.contains d = true := by
          intro d hd
          rw [hsame]
          rw [current_feed, h] at hd
          exact hopen d hd
        rw [List.foldl_cons, ih _ hopen', hsame]
        simp [h]
  have h := hrun {} (by simp)
  simpa [parse] using h

theorem openAfter_append (before after : Table) :
    openAfter (before ++ after) = (openAfter after).or (openAfter before) :=
  lastHeading?_append before after

theorem entriesFrom_append (current : Option String) (before after : Table) :
    entriesFrom current (before ++ after) =
      entriesFrom current before ++ entriesFrom ((openAfter before).or current) after := by
  induction before generalizing current with
  | nil => rfl
  | cons row rest ih =>
    have hopen : openAfter (row :: rest) = (openAfter rest).or (device? row) :=
      lastHeading?_cons row rest
    rw [List.cons_append, entriesFrom, entriesFrom, ih, hopen, Option.or_assoc, List.append_assoc]

end KeyValue

end DiskHealth.Telemetry
