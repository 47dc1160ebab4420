import DiskHealth.Proofs.Json.Records
import DiskHealth.Proofs.Report.Absence

/-!
The views of a report agree. Read back, its text has one block of lines for every outcome and one
line for every item without outcome, in order (`blocks_eq`). So the marks at the beginning of the
lines count the results by their verdicts, and the exit code, the marks in the headers and the JSON
array say the same about them. The main statement puts all views of what a cycle found together.
-/

namespace DiskHealth

namespace Cycle

/-- The item that a cycle has something for. -/
def itemOf : ItemCheck → String
  | .ok o => o.item
  | .error e => e.item

end Cycle

namespace Report

open Text (IsPlain IsLine)

/-! ### Outcomes and pending items -/

/-- Some checks split into outcomes and pending items: each is one of the two, in order, and there
is nothing else. -/
inductive Split : List Cycle.ItemCheck → List Outcome → List PendingItem → Prop
  | nil : Split [] [] []
  | evaluated {checks : List Cycle.ItemCheck} {outcomes : List Outcome}
      {pending : List PendingItem} (o : Outcome) (rest : Split checks outcomes pending) :
      Split (.ok o :: checks) (o :: outcomes) pending
  | pending {checks : List Cycle.ItemCheck} {outcomes : List Outcome}
      {pending : List PendingItem} (e : CheckError) (rest : Split checks outcomes pending) :
      Split (.error e :: checks) outcomes (⟨e.item, e.reason⟩ :: pending)

theorem split_ofChecks (checks : List Cycle.ItemCheck) :
    Split checks (ofChecks checks).outcomes (ofChecks checks).pending := by
  induction checks with
  | nil => exact .nil
  | cons check rest ih =>
    cases check with
    | ok o => exact .evaluated o ih
    | error e => exact .pending e ih

theorem exists_of_mem_pending {checks : List Cycle.ItemCheck} {p : PendingItem}
    (h : p ∈ (ofChecks checks).pending) : ∃ e, .error e ∈ checks ∧ p = ⟨e.item, e.reason⟩ := by
  obtain ⟨check, hmem, hcheck⟩ := List.mem_filterMap.1 h
  cases check with
  | ok o => exact nomatch hcheck
  | error e =>
    cases hcheck
    exact ⟨e, hmem, rfl⟩

/-! ### Marks of lines -/

def starts (text line : String) : Bool :=
  text.toList.isPrefixOf line.toList

def ends (text line : String) : Bool :=
  text.toList.isSuffixOf line.toList

theorem starts_append (text rest : String) : starts text (text ++ rest) = true := by
  simp [starts]

theorem ends_append (rest text : String) : ends text (rest ++ text) = true := by
  simp [ends]

/-- Whether both begin, and not with the same character. -/
def beginApart : List Char → List Char → Bool
  | c :: _, d :: _ => c != d
  | _, _ => false

theorem isPrefixOf_eq_false {cs ds : List Char} (h : beginApart cs ds = true) (rest : List Char) :
    cs.isPrefixOf (ds ++ rest) = false := by
  cases cs with
  | nil => cases h
  | cons c cs =>
    cases ds with
    | nil => cases h
    | cons d ds =>
      have hne : c ≠ d := by simpa [beginApart] using h
      simp [List.isPrefixOf, hne]

theorem starts_eq_false {text start : String} (h : beginApart text.toList start.toList = true)
    (rest : String) : starts text (start ++ rest) = false := by
  rw [starts, String.toList_append]
  exact isPrefixOf_eq_false h _

theorem ends_eq_false {text ending : String}
    (h : beginApart text.toList.reverse ending.toList.reverse = true) (rest : String) :
    ends text (rest ++ ending) = false := by
  rw [ends, List.isSuffixOf, String.toList_append, List.reverse_append]
  exact isPrefixOf_eq_false h _

/-- The mark that the line of a result starts with. -/
def mark (v : Verdict) : String :=
  v.symbol ++ " - "

def resultPair (y : AttributeResult) : String × String :=
  (mark y.verdict ++ y.summary, "metric " ++ y.metric.name ++ "=" ++ Numeral.ofWord y.metric.value)

theorem resultLines_eq (y : AttributeResult) :
    resultLines y = [(resultPair y).1, (resultPair y).2] := rfl

theorem starts_mark_summary (v : Verdict) (y : AttributeResult) :
    starts (mark v) (resultPair y).1 = decide (y.verdict = v) := by
  by_cases h : y.verdict = v
  · rw [decide_eq_true h, ← h]
    exact starts_append _ _
  · rw [decide_eq_false h]
    have hmarks : ∀ w, w ≠ v → beginApart (mark v).toList (mark w).toList = true := by
      intro w hne
      cases v <;> cases w <;> first | exact absurd rfl hne | decide
    exact starts_eq_false (hmarks y.verdict h) _

theorem starts_mark_metric (v : Verdict) (y : AttributeResult) :
    starts (mark v) (resultPair y).2 = false := by
  have hmetric : beginApart (mark v).toList "metric ".toList = true := by
    cases v <;> decide
  show starts (mark v) ("metric " ++ y.metric.name ++ "=" ++ _) = false
  rw [String.append_assoc, String.append_assoc]
  exact starts_eq_false hmetric _

theorem starts_mark_headed (v : Verdict) (item text : String) :
    starts (mark v) (headed item text) = false := by
  have hbracket : beginApart (mark v).toList "[".toList = true := by
    cases v <;> decide
  unfold headed
  rw [String.append_assoc, String.append_assoc]
  exact starts_eq_false hbracket _

theorem starts_mark_absent (v : Verdict) : starts (mark v) absentLine = false := by
  cases v <;> decide

/-! ### Numbers of marks -/

theorem countP_resultLines (v : Verdict) (results : List AttributeResult) :
    (results.flatMap resultLines).countP (starts (mark v)) = results.countP (·.verdict = v) := by
  induction results with
  | nil => rfl
  | cons y rest ih =>
    rw [List.flatMap_cons, List.countP_append, ih, resultLines_eq, List.countP_cons,
      List.countP_singleton, starts_mark_summary, starts_mark_metric, List.countP_cons]
    simp [Nat.add_comm]

/-- As many lines of an outcome have the mark of a verdict as it has results with the verdict. -/
theorem countP_outcomeLines (v : Verdict) (o : Outcome) :
    (outcomeLines o).countP (starts (mark v)) = o.results.countP (·.verdict = v) := by
  rw [outcomeLines_eq, List.countP_cons, starts_mark_headed, bodyLines]
  split
  · rename_i hempty
    rw [List.isEmpty_iff.1 hempty, List.countP_singleton, starts_mark_absent]
    rfl
  · simpa using countP_resultLines v o.results

theorem countP_lines (v : Verdict) (r : Report) :
    r.lines.countP (starts (mark v)) =
      (r.outcomes.flatMap (·.results)).countP (·.verdict = v) := by
  have hpending : (r.pending.map pendingLine).countP (starts (mark v)) = 0 := by
    rw [List.countP_eq_zero]
    intro line hline
    obtain ⟨p, -, rfl⟩ := List.mem_map.1 hline
    simp [pendingLine, starts_mark_headed]
  rw [lines, List.countP_append, hpending, List.countP_flatMap, List.countP_flatMap]
  simp [Function.comp_def, countP_outcomeLines]

/-! ### Blocks -/

/-- The lines with a verdict's mark, each with the line right after it. -/
def markedPairs (lines : List String) : List (String × String) :=
  (lines.zip lines.tail).filter fun pair =>
    starts (mark .normal) pair.1 || starts (mark .critical) pair.1

theorem markedPairs_cons {first : String} (h : ∀ v, starts (mark v) first = false)
    (second : String) (rest : List String) :
    markedPairs (first :: second :: rest) = markedPairs (second :: rest) := by
  simp [markedPairs, h]

/-- After a line without a mark, the marked lines are those of the results, with their metrics. -/
theorem markedPairs_resultLines {first : String} (h : ∀ v, starts (mark v) first = false)
    (results : List AttributeResult) :
    markedPairs (first :: results.flatMap resultLines) = results.map resultPair := by
  induction results generalizing first with
  | nil => rfl
  | cons y rest ih =>
    have hmarked : starts (mark .normal) (resultPair y).1 ||
        starts (mark .critical) (resultPair y).1 := by
      rw [starts_mark_summary, starts_mark_summary]
      cases y.verdict <;> rfl
    have hrest := ih fun v => starts_mark_metric v y
    rw [List.flatMap_cons, resultLines_eq, List.cons_append, List.singleton_append,
      markedPairs_cons h, List.map_cons, ← hrest]
    simp [markedPairs, hmarked]

/-- What a block of lines shows of an outcome. Its first line names the item, and ends in the
symbol of a critical verdict exactly if there is a critical result. The lines with a mark are those
of the results, in order, and right after each of them comes its metric. -/
structure Shows (o : Outcome) (block : List String) : Prop where
  header : ∃ line rest, block = line :: rest ∧ starts ("[" ++ o.item ++ "] ") line ∧
    (ends "CRIT" line ↔ ∃ y ∈ o.results, y.verdict = .critical)
  results : markedPairs block = o.results.map fun y =>
    (y.verdict.symbol ++ " - " ++ y.summary,
      "metric " ++ y.metric.name ++ "=" ++ Numeral.ofWord y.metric.value)

theorem ends_headed_symbol (item : String) (v : Verdict) :
    ends "CRIT" (headed item v.symbol) ↔ v = .critical := by
  unfold headed
  cases v with
  | normal =>
    have hsymbol : ends "CRIT" ("[" ++ item ++ "] " ++ Verdict.normal.symbol) = false :=
      ends_eq_false (by decide) _
    simp [hsymbol]
  | critical =>
    have hsymbol : ends "CRIT" ("[" ++ item ++ "] " ++ Verdict.critical.symbol) = true :=
      ends_append _ "CRIT"
    simp [hsymbol]

theorem shows_outcomeLines (o : Outcome) : Shows o (outcomeLines o) where
  header := by
    have hends : ends "CRIT" (headed o.item o.verdict.symbol) ↔
        ∃ y ∈ o.results, y.verdict = .critical :=
      (ends_headed_symbol o.item o.verdict).trans Outcome.verdict_eq_critical_iff
    exact ⟨_, bodyLines o, rfl, starts_append _ _, hends⟩
  results := by
    have hheader := fun v => starts_mark_headed v o.item o.verdict.symbol
    show markedPairs (outcomeLines o) = o.results.map resultPair
    rw [outcomeLines_eq, bodyLines]
    split
    · rename_i hempty
      rw [List.isEmpty_iff.1 hempty, markedPairs_cons hheader]
      rfl
    · exact markedPairs_resultLines hheader o.results

/-- What a block of lines shows of an item without outcome: one line with the item and the reason,
which does not end in the symbol of a critical verdict. -/
structure ShowsPending (p : PendingItem) (block : List String) : Prop where
  line : block = ["[" ++ p.item ++ "] " ++ ("PENDING - " ++ p.reason)]
  uncritical : ∀ line ∈ block, ends "CRIT" line = false

theorem isHeader_head?_pending (pending : List PendingItem) :
    ∀ line ∈ (pending.map pendingLine).head?, isHeader line = true := by
  intro line hline
  obtain ⟨p, -, rfl⟩ := List.mem_map.1 (List.mem_of_mem_head? hline)
  exact isHeader_headed p.item _

theorem grouped_pending (pending : List PendingItem) :
    grouped (pending.map pendingLine) = pending.map fun p => [pendingLine p] := by
  induction pending with
  | nil => rfl
  | cons p rest ih =>
    have hbody : ∀ line ∈ ([] : List String), isHeader line = false := fun _ hline => nomatch hline
    rw [List.map_cons, List.map_cons, ← ih]
    exact grouped_block hbody (isHeader_head?_pending rest)

theorem lines_text {r : Report} (h : ∀ line ∈ r.lines, IsLine line) :
    (Text.lines r.text.toList).map String.ofList = r.lines := by
  have htext := Text.lines_flatMap h []
  rw [List.append_nil] at htext
  rw [toList_text, htext]
  simp [Text.lines, Text.linesFrom, Text.flush, Function.comp_def]

theorem blocks_eq {r : Report} (h : ∀ line ∈ r.lines, IsLine line) :
    blocks r.text =
      r.outcomes.map outcomeLines ++ r.pending.map fun p => [pendingLine p] := by
  have hnext := isHeader_head?_pending r.pending
  rw [blocks, lines_text h, lines, grouped_outcomes _ hnext, grouped_pending]

/-! ### The exit code -/

/-- A report is critical exactly if a result of an outcome is. -/
theorem verdict_eq_critical_iff_results {r : Report} :
    r.verdict = .critical ↔ ∃ o ∈ r.outcomes, ∃ y ∈ o.results, y.verdict = .critical := by
  rw [verdict, Verdict.worst_eq_critical_iff, List.mem_map]
  constructor
  · rintro ⟨o, ho, hv⟩
    exact ⟨o, ho, Outcome.verdict_eq_critical_iff.1 hv⟩
  · rintro ⟨o, ho, hy⟩
    exact ⟨o, ho, Outcome.verdict_eq_critical_iff.2 hy⟩

theorem exitCode_eq (r : Report) : r.exitCode = if r.verdict = .critical then 2 else 0 := by
  unfold exitCode
  cases r.verdict <;> rfl

/-! ### The JSON text -/

theorem faithful_pending (p : PendingItem) : Json.Faithful p :=
  Json.faithful_two PendingItem.mk (by decide) rfl (fun _ => rfl) (Json.faithful_text p.item)
    (Json.faithful_text p.reason)

/-- The text is that of an object with one member for the outcomes, an array that they are taken
back from. -/
theorem read?_json (r : Report) :
    ∃ members items, Json.read? r.json.toList = some (.object members) ∧
      Json.membersOf "outcomes" members = [.array items] ∧
      items.mapM Json.decode = some r.outcomes := by
  have houtcomes := Json.faithful_list fun o (_ : o ∈ r.outcomes) => Json.faithful_outcome o
  have hpending := Json.faithful_list fun p (_ : p ∈ r.pending) => faithful_pending p
  have hproper : (Json.encode r).Proper :=
    Json.proper_ofMembers (by simp [houtcomes.proper, hpending.proper])
  have hread := Json.read?_print Json.Style.pretty_blank hproper 0
  rw [json, Json.prettyText, Json.Value.pretty, String.toList_ofList, hread]
  exact ⟨_, _, rfl, rfl, houtcomes.decode_encode⟩

/-! ### The report of a cycle -/

section Cycle

variable {c : Cycle} {store : BaselineStore} {s : Section} {rates : RateState}
  {only : Option String}

/-- The metric of a result has the attribute's name and its value in the reading of the item. -/
theorem raw_of_mem_outcomes {o : Outcome}
    (ho : o ∈ (ofChecks (c.checkAll store s only rates).1).outcomes) {y : AttributeResult}
    (hy : y ∈ o.results) :
    y.metric.name = y.subject.name ∧
      ∃ r, s.get? o.item = some r ∧ r.value? y.subject = some y.metric.value := by
  obtain ⟨e, -, hok⟩ := exists_selected ho
  rcases Cycle.checkItem_eq_ok c hok with ⟨-, rfl⟩ | ⟨r, x, hs, rfl⟩
  · exact nomatch hy
  · obtain ⟨a, -, ha⟩ := List.mem_filterMap.1 hy
    obtain ⟨-, v, hv, rfl⟩ := Cycle.result?_eq_some_iff.1 ha
    exact ⟨rfl, r, hs, hv⟩

/-- The reason that a cycle gives ends in one of three texts, whatever the names in it are. -/
theorem exists_ending {e : CheckError} (h : .error e ∈ (c.checkAll store s only rates).1)
    (hitem : '\n' ∉ e.item.toList) (hcheck : '\n' ∉ c.check.toList) :
    ∃ start ending, e.reason = start ++ ending ∧ '\n' ∉ start.toList ∧
      ending ∈ [" initialized", "cmd_timeout", " items"] := by
  rcases (Cycle.mem_checkAll_iff c).1 h with ⟨i, -, hi⟩ | ⟨item, -, -, hi⟩
  · obtain ⟨cause, rfl, hkey⟩ := Cycle.checkItem_eq_error c hi
    have hname : '\n' ∉ i.1.toList := hitem
    cases cause with
    | initialized key =>
      obtain rfl : key = c.check ++ "." ++ i.1 ++ "." ++ "cmd_timeout" := hkey
      refine ⟨"counter " ++ (c.check ++ "." ++ i.1 ++ "." ++ "cmd_timeout"), " initialized", rfl,
        ?_, by decide⟩
      simp [hcheck, hname]
    | noTimeDifference key =>
      obtain rfl : key = c.check ++ "." ++ i.1 ++ "." ++ "cmd_timeout" := hkey
      refine ⟨"no time difference for counter " ++ (c.check ++ "." ++ i.1 ++ "."), "cmd_timeout",
        String.append_assoc.symm, ?_, by decide⟩
      simp [hcheck, hname]
  · cases hi
    exact ⟨"not among the discovered", " items", rfl, by decide, by decide⟩

theorem showsPending_of_mem {p : PendingItem}
    (hitems : ∀ x ∈ (c.checkAll store s only rates).1, '\n' ∉ (Cycle.itemOf x).toList)
    (hcheck : '\n' ∉ c.check.toList)
    (hp : p ∈ (ofChecks (c.checkAll store s only rates).1).pending) :
    IsLine (pendingLine p) ∧ ShowsPending p [pendingLine p] := by
  obtain ⟨e, he, rfl⟩ := exists_of_mem_pending hp
  have hitem : '\n' ∉ e.item.toList := hitems _ he
  obtain ⟨start, ending, hreason, hstart, hending⟩ := exists_ending he hitem hcheck
  have hplain : ∀ ending ∈ [" initialized", "cmd_timeout", " items"], IsPlain ending ∧ ending ≠ "" ∧
      beginApart "CRIT".toList.reverse ending.toList.reverse = true := by
    decide
  obtain ⟨hplain, hne, hlast⟩ := hplain ending hending
  have hline : pendingLine ⟨e.item, e.reason⟩ =
      ("[" ++ e.item ++ "] " ++ ("PENDING - " ++ start)) ++ ending := by
    simp only [pendingLine, headed, hreason, String.append_assoc]
  have hbegin : '\n' ∉ ("[" ++ e.item ++ "] " ++ ("PENDING - " ++ start)).toList := by
    simp [hitem, hstart]
  constructor
  · rw [hline]
    exact Text.isLine_append hbegin hplain hne
  · refine ⟨rfl, fun line hmem => ?_⟩
    rw [List.mem_singleton.1 hmem, hline]
    exact ends_eq_false hlast _

theorem isLine_of_mem_lines
    (hitems : ∀ x ∈ (c.checkAll store s only rates).1, '\n' ∉ (Cycle.itemOf x).toList)
    (hcheck : '\n' ∉ c.check.toList) {line : String}
    (h : line ∈ (ofChecks (c.checkAll store s only rates).1).lines) : IsLine line := by
  rcases List.mem_append.1 h with h | h
  · obtain ⟨o, ho, hline⟩ := List.mem_flatMap.1 h
    obtain ⟨e, -, hok⟩ := exists_selected ho
    have hitem : '\n' ∉ o.item.toList := hitems _ (mem_outcomes_iff.1 ho)
    rw [Cycle.item_of_checkItem c hok] at hitem
    exact isLine_outcomeLines hitem hok hline
  · obtain ⟨p, hp, rfl⟩ := List.mem_map.1 h
    exact (showsPending_of_mem hitems hcheck hp).1

/-- The views of a report on what a cycle found in a section. -/
structure Agrees (s : Section) (checks : List Cycle.ItemCheck) (r : Report) : Prop where
  split : Split checks r.outcomes r.pending
  blocks : ∃ shown waiting, blocks r.text = shown ++ waiting ∧
    List.Forall₂ Shows r.outcomes shown ∧ List.Forall₂ ShowsPending r.pending waiting
  critical : ((Text.lines r.text.toList).map String.ofList).countP (starts "CRIT - ") =
    (r.outcomes.flatMap (·.results)).countP (·.verdict = .critical)
  normal : ((Text.lines r.text.toList).map String.ofList).countP (starts "OK - ") =
    (r.outcomes.flatMap (·.results)).countP (·.verdict = .normal)
  raw : ∀ o ∈ r.outcomes, ∀ y ∈ o.results, y.metric.name = y.subject.name ∧
    ∃ reading, s.get? o.item = some reading ∧ reading.value? y.subject = some y.metric.value
  exitCode : r.exitCode =
    if ∃ o ∈ r.outcomes, ∃ y ∈ o.results, y.verdict = .critical then 2 else 0
  unmoved : ∀ pending, ({ r with pending } : Report).exitCode = r.exitCode
  json : ∃ members items, Json.read? r.json.toList = some (.object members) ∧
    Json.membersOf "outcomes" members = [.array items] ∧
    items.mapM Json.decode = some r.outcomes

/-- The views of a cycle's report agree, if neither the items nor the check have a name with a line
break. The outcomes and the pending items are what the cycle has for its items, in order. The text
shows them one after the other, and has as many marks of a verdict as there are results with it. The
exit code tells whether one of the results is critical, and the JSON array holds the outcomes. -/
theorem agrees_checkAll (c : Cycle) (store : BaselineStore) (s : Section) (only : Option String)
    (rates : RateState)
    (hitems : ∀ x ∈ (c.checkAll store s only rates).1, '\n' ∉ (Cycle.itemOf x).toList)
    (hcheck : '\n' ∉ c.check.toList) :
    Agrees s (c.checkAll store s only rates).1 (ofChecks (c.checkAll store s only rates).1) := by
  have hlines : ∀ line ∈ (ofChecks (c.checkAll store s only rates).1).lines, IsLine line :=
    fun line => isLine_of_mem_lines hitems hcheck
  have hcount (v : Verdict) := countP_lines v (ofChecks (c.checkAll store s only rates).1)
  rw [← lines_text hlines] at hcount
  refine
    { split := split_ofChecks _
      blocks := ⟨_, _, blocks_eq hlines, ?_, ?_⟩
      critical := hcount .critical
      normal := hcount .normal
      raw := fun o ho y hy => raw_of_mem_outcomes ho hy
      exitCode := ?_
      unmoved := fun pending => rfl
      json := read?_json _ }
  · exact List.forall₂_map_right_iff.2 (List.forall₂_same.2 fun o _ => shows_outcomeLines o)
  · refine List.forall₂_map_right_iff.2 (List.forall₂_same.2 fun p hp => ?_)
    exact (showsPending_of_mem hitems hcheck hp).2
  · simp only [exitCode_eq, verdict_eq_critical_iff_results]

end Cycle

/-! ### A disk that fails, one that is missing and one that is put off -/

def threeItems : BaselineStore :=
  .ofList [("/dev/sda", .ofList [("Reallocated_Sectors", 0)]),
    ("/dev/sdb", .ofList [("Reallocated_Sectors", 0)]),
    ("/dev/sdc", .ofList [("Command_Timeout_Counter", 0)])]

def twoReadings : Section :=
  .ofList [("/dev/sda", ⟨.ofList [("Power_Cycles", 9), ("Reallocated_Sectors", 3)], none⟩),
    ("/dev/sdc", ⟨.ofList [("Command_Timeout_Counter", 7)], none⟩)]

def mixedChecks : List Cycle.ItemCheck :=
  ((⟨RateKey.defaultCheck, 0⟩ : Cycle).checkAll threeItems twoReadings none ∅).1

theorem agrees_checkAll_mixed :
    (∀ x ∈ mixedChecks, '\n' ∉ (Cycle.itemOf x).toList) ∧ '\n' ∉ RateKey.defaultCheck.toList ∧
      Agrees twoReadings mixedChecks (ofChecks mixedChecks) ∧
      (ofChecks mixedChecks).exitCode = 2 ∧
      (ofChecks mixedChecks).lines =
        ["[/dev/sda] CRIT", "CRIT - Reallocated sectors: 3 (during discovery: 0 (!!))",
          "metric Reallocated_Sectors=3", "OK - Power cycles: 9", "metric Power_Cycles=9",
          "[/dev/sdb] OK", absentLine,
          "[/dev/sdc] PENDING - counter smart_stats./dev/sdc.cmd_timeout initialized"] := by
  have hitems : ∀ x ∈ mixedChecks, '\n' ∉ (Cycle.itemOf x).toList := by decide +kernel
  have hcheck : '\n' ∉ RateKey.defaultCheck.toList := by decide
  exact ⟨hitems, hcheck, agrees_checkAll _ _ _ _ _ hitems hcheck, by decide +kernel,
    by decide +kernel⟩

end Report

end DiskHealth
