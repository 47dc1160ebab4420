import DiskHealth.Proofs.Check.Independence
import DiskHealth.Proofs.Report.Lines
import Mathlib.Data.List.SplitBy

/-!
Missing devices in a report's text. A reader tells the items apart by the brackets that begin their
lines, and so finds the outcomes again (`map_outcomeLines_isPrefix`). The main statement says for
which of them the text reads as if the device were missing: where it is, but also where the reading
of a device that is there holds no attribute that is judged.
-/

namespace DiskHealth

namespace Report

/-- Whether a line is the first of an item's. -/
def isHeader (line : String) : Bool :=
  line.toList.head? == some '['

/-- Lines in blocks: each item's first line with the lines up to the next item's. -/
def grouped (lines : List String) : List (List String) :=
  lines.splitBy fun _ line => !isHeader line

/-- The blocks of a text's lines. -/
def blocks (text : String) : List (List String) :=
  grouped ((Text.lines text.toList).map String.ofList)

theorem isHeader_append {start : String} (h : start ≠ "") (text : String) :
    isHeader (start ++ text) = isHeader start := by
  unfold isHeader
  cases hstart : start.toList with
  | nil => exact absurd (String.toList_eq_nil_iff.1 hstart) h
  | cons c cs => rw [String.toList_append, hstart, List.cons_append, List.head?_cons, List.head?_cons]

theorem isHeader_headed (item text : String) : isHeader (headed item text) = true := by
  have hbracket : "[" ≠ "" := by decide
  unfold headed
  rw [String.append_assoc, String.append_assoc, isHeader_append hbracket]
  decide

/-! ### Outcomes in a text -/

theorem mem_outcomes_iff {checks : List Cycle.ItemCheck} {o : Outcome} :
    o ∈ (ofChecks checks).outcomes ↔ .ok o ∈ checks := by
  unfold ofChecks
  rw [List.mem_filterMap]
  constructor
  · rintro ⟨check, hmem, hcheck⟩
    cases check with
    | error e => exact nomatch hcheck
    | ok o' =>
      cases hcheck
      exact hmem
  · exact fun hmem => ⟨_, hmem, rfl⟩

/-- The lines of an outcome's results, or the one that stands for them. -/
def bodyLines (o : Outcome) : List String :=
  if o.results.isEmpty then [absentLine] else o.results.flatMap resultLines

theorem outcomeLines_eq (o : Outcome) :
    outcomeLines o = headed o.item o.verdict.symbol :: bodyLines o := rfl

/-- An outcome has the line of a missing device exactly if it has no results. -/
theorem bodyLines_eq_absent_iff {o : Outcome} : bodyLines o = [absentLine] ↔ o.results = [] := by
  unfold bodyLines
  cases hresults : o.results with
  | nil => simp
  | cons y rest =>
    simp [resultLines]

theorem isHeader_resultLines {y : AttributeResult} {line : String} (h : line ∈ resultLines y) :
    isHeader line = false := by
  simp only [resultLines, List.mem_cons, List.not_mem_nil, or_false] at h
  rcases h with rfl | rfl
  · have hmark : y.verdict.symbol ++ " - " ≠ "" ∧
        isHeader (y.verdict.symbol ++ " - ") = false := by
      cases y.verdict <;> decide
    rw [isHeader_append hmark.1, hmark.2]
  · have hmetric : "metric " ≠ "" := by decide
    rw [String.append_assoc, String.append_assoc, isHeader_append hmetric]
    decide

theorem isHeader_bodyLines {o : Outcome} {line : String} (h : line ∈ bodyLines o) :
    isHeader line = false := by
  unfold bodyLines at h
  split at h
  · rw [List.mem_singleton.1 h]
    decide
  · obtain ⟨y, -, hy⟩ := List.mem_flatMap.1 h
    exact isHeader_resultLines hy

theorem isPlain_bodyLines {o : Outcome} (h : ∀ y ∈ o.results, ∃ r b x, y ∈ Cycle.results r b x)
    {line : String} (hline : line ∈ bodyLines o) : Text.IsPlain line := by
  unfold bodyLines at hline
  split at hline
  · rw [List.mem_singleton.1 hline]
    decide
  · obtain ⟨y, hy, hmem⟩ := List.mem_flatMap.1 hline
    obtain ⟨r, b, x, hresult⟩ := h y hy
    exact isPlain_resultLines hresult hmem

/-- A header and lines that are none are one block, if nothing or a header comes next. -/
theorem grouped_block {header : String} {body rest : List String}
    (hbody : ∀ line ∈ body, isHeader line = false)
    (hrest : ∀ line ∈ rest.head?, isHeader line = true) :
    grouped (header :: body ++ rest) = (header :: body) :: grouped rest := by
  have hchain : (header :: body).IsChain fun _ line => (!isHeader line) = true := by
    induction body generalizing header with
    | nil => exact .singleton header
    | cons line body ih =>
      have hline := hbody line List.mem_cons_self
      refine .cons_cons (by simp [hline]) ?_
      exact ih fun l hl => hbody l (List.mem_cons_of_mem _ hl)
  unfold grouped
  rw [List.splitBy_append, List.splitBy_of_isChain (List.cons_ne_nil _ _) hchain]
  · rfl
  · intro _ _ line hline
    simp [hrest line hline]

theorem grouped_outcomes (outcomes : List Outcome) {rest : List String}
    (hrest : ∀ line ∈ rest.head?, isHeader line = true) :
    grouped (outcomes.flatMap outcomeLines ++ rest) =
      outcomes.map outcomeLines ++ grouped rest := by
  induction outcomes with
  | nil => rfl
  | cons o others ih =>
    have hnext : ∀ line ∈ (others.flatMap outcomeLines ++ rest).head?, isHeader line = true := by
      cases others with
      | nil => exact hrest
      | cons p others =>
        intro line hline
        cases hline
        exact isHeader_headed p.item p.verdict.symbol
    rw [List.flatMap_cons, List.append_assoc, outcomeLines_eq,
      grouped_block (fun line => isHeader_bodyLines) hnext, ih]
    rfl

/-- The blocks of a text begin with the outcomes, if all their lines are lines of the text. -/
theorem map_outcomeLines_isPrefix {r : Report}
    (h : ∀ o ∈ r.outcomes, ∀ line ∈ outcomeLines o, Text.IsLine line) :
    r.outcomes.map outcomeLines <+: blocks r.text := by
  have hlines : ∀ line ∈ r.outcomes.flatMap outcomeLines, Text.IsLine line := by
    intro line hline
    obtain ⟨o, ho, hmem⟩ := List.mem_flatMap.1 hline
    exact h o ho line hmem
  let rest := (r.pending.map pendingLine).flatMap fun line => line.toList ++ ['\n']
  have hrest : ∀ line ∈ ((Text.lines rest).map String.ofList).head?, isHeader line = true := by
    cases hpending : r.pending with
    | nil => simp [rest, hpending, Text.lines, Text.linesFrom, Text.flush]
    | cons p others =>
      have hopen : ∃ cs, rest = '[' :: cs := by simp [rest, hpending, pendingLine, headed]
      obtain ⟨cs, hcs⟩ := hopen
      obtain ⟨line, lines, hfirst⟩ :=
        Text.exists_lines_cons (by decide : '[' ≠ '\n') (by decide) cs
      rw [hcs, hfirst]
      simp [isHeader]
  have htext : r.text.toList =
      (r.outcomes.flatMap outcomeLines).flatMap (fun line => line.toList ++ ['\n']) ++ rest := by
    rw [toList_text, lines, List.flatMap_append]
  have hblocks : blocks r.text = r.outcomes.map outcomeLines ++
      grouped ((Text.lines rest).map String.ofList) := by
    rw [blocks, htext, Text.lines_flatMap hlines, List.map_append, ← grouped_outcomes _ hrest]
    simp [Function.comp_def]
  exact ⟨_, hblocks.symm⟩

/-! ### The outcomes of a cycle -/

section Cycle

variable {c : Cycle} {store : BaselineStore} {s : Section} {rates : RateState}
  {only : Option String}

theorem exists_selected {o : Outcome}
    (h : o ∈ (ofChecks (c.checkAll store s only rates).1).outcomes) :
    ∃ e ∈ Cycle.selected store only, (c.checkItem e.1 e.2 s rates).1 = .ok o := by
  rcases (Cycle.mem_checkAll_iff c).1 (mem_outcomes_iff.1 h) with hitem | ⟨item, -, -, herror⟩
  · exact hitem
  · exact nomatch herror

theorem isLine_headed {item : String} (h : '\n' ∉ item.toList) (v : Verdict) :
    Text.IsLine (headed item v.symbol) := by
  have hstart : '\n' ∉ ("[" ++ item ++ "] ").toList := by simp [h]
  have hsymbol : Text.IsPlain v.symbol ∧ v.symbol ≠ "" := by
    cases v <;> decide
  exact Text.isLine_append hstart hsymbol.1 hsymbol.2

theorem isLine_outcomeLines {e : String × Baseline} (hitem : '\n' ∉ e.1.toList) {o : Outcome}
    (h : (c.checkItem e.1 e.2 s rates).1 = .ok o) {line : String} (hline : line ∈ outcomeLines o) :
    Text.IsLine line := by
  have hparts : o.item = e.1 ∧ ∀ y ∈ o.results, ∃ r b x, y ∈ Cycle.results r b x := by
    rcases Cycle.checkItem_eq_ok c h with ⟨-, rfl⟩ | ⟨r, x, -, rfl⟩
    · exact ⟨rfl, fun y hy => nomatch hy⟩
    · exact ⟨rfl, fun y hy => ⟨r, e.2, x, hy⟩⟩
  rw [outcomeLines_eq] at hline
  rcases List.mem_cons.1 hline with rfl | hbody
  · rw [hparts.1]
    exact isLine_headed hitem o.verdict
  · exact (isPlain_bodyLines hparts.2 hbody).isLine

/-- The blocks of a cycle's text begin with those of its outcomes, in order. Such a block reports a
missing device exactly if the device has no reading, or if its reading holds no recognized attribute
but its temperature. Every missing device is reported so. -/
theorem absent_blocks (h : ∀ e ∈ Cycle.selected store only, '\n' ∉ e.1.toList) :
    (ofChecks (c.checkAll store s only rates).1).outcomes.map outcomeLines <+:
        blocks (ofChecks (c.checkAll store s only rates).1).text ∧
      (∀ o ∈ (ofChecks (c.checkAll store s only rates).1).outcomes,
        outcomeLines o = [headed o.item o.verdict.symbol, absentLine] ↔
          s.get? o.item = none ∨
            ∃ r, s.get? o.item = some r ∧ ∀ a, r.value? a ≠ none → a = .temperature) ∧
      ∀ e ∈ Cycle.selected store only, s.get? e.1 = none →
        [headed e.1 Verdict.normal.symbol, absentLine] ∈
          blocks (ofChecks (c.checkAll store s only rates).1).text := by
  have hbegin : (ofChecks (c.checkAll store s only rates).1).outcomes.map outcomeLines <+:
      blocks (ofChecks (c.checkAll store s only rates).1).text := by
    refine map_outcomeLines_isPrefix fun o ho line hline => ?_
    obtain ⟨e, he, hok⟩ := exists_selected ho
    exact isLine_outcomeLines (h e he) hok hline
  refine ⟨hbegin, ?_, ?_⟩
  · intro o ho
    obtain ⟨e, -, hok⟩ := exists_selected ho
    rw [outcomeLines_eq, List.cons_inj_right, bodyLines_eq_absent_iff]
    rcases Cycle.checkItem_eq_ok c hok with ⟨hs, rfl⟩ | ⟨r, x, hs, rfl⟩
    · simp [hs]
    · rw [Cycle.results_eq_nil_iff]
      simp [hs, Cycle.isJudged_eq_false_iff]
  · intro e he hs
    have hok : (c.checkItem e.1 e.2 s rates).1 = .ok ⟨e.1, []⟩ := by
      rw [Cycle.checkItem_of_absent c hs]
    have hmem : (⟨e.1, []⟩ : Outcome) ∈ (ofChecks (c.checkAll store s only rates).1).outcomes :=
      mem_outcomes_iff.2 ((Cycle.mem_checkAll_iff c).2 (.inl ⟨e, he, hok⟩))
    apply hbegin.mem
    exact List.mem_map.2 ⟨_, hmem, rfl⟩

end Cycle

/-! ### A missing disk and one that only tells its temperature -/

def twoItems : BaselineStore :=
  .ofList [("/dev/sda", .ofList [("Reallocated_Sectors", 0)]),
    ("/dev/sdb", .ofList [("Reallocated_Sectors", 0)])]

def oneTemperature : Section :=
  .ofList [("/dev/sda", ⟨.ofList [("Temperature", 40)], none⟩)]

def firstReport : Report :=
  ofChecks ((⟨RateKey.defaultCheck, 0⟩ : Cycle).checkAll twoItems oneTemperature none ∅).1

theorem absent_blocks_missing :
    (∀ e ∈ Cycle.selected twoItems none, '\n' ∉ e.1.toList) ∧
      ["[/dev/sdb] OK", absentLine] ∈ blocks firstReport.text := by
  have hnames : ∀ e ∈ Cycle.selected twoItems none, '\n' ∉ e.1.toList := by decide +kernel
  have hselected : ("/dev/sdb", .ofList [("Reallocated_Sectors", 0)]) ∈
      Cycle.selected twoItems none := by decide +kernel
  exact ⟨hnames, (absent_blocks hnames).2.2 _ hselected (by decide +kernel)⟩

/-- The disk that is there is reported missing like the other. -/
theorem present_reported_absent :
    oneTemperature.get? "/dev/sda" ≠ none ∧
      blocks firstReport.text = [["[/dev/sda] OK", absentLine], ["[/dev/sdb] OK", absentLine]] := by
  decide +kernel

end Report

end DiskHealth
