import DiskHealth.Proofs.Check.Verdicts
import DiskHealth.Proofs.Numeral
import DiskHealth.Proofs.Text.Words
import DiskHealth.Report

/-!
Lines of a report's text. Everything that a result shows is plain, without control characters
(`isPlain_render`, `isPlain_summary`), so the text falls back into the lines that were written. Only
the names that come from outside can break a line: an item's own, and in the key of a counter the
name of the check.
-/

namespace DiskHealth

namespace Text

/-- Without control characters, among which are those that end a line. -/
def IsPlain (text : String) : Prop :=
  ∀ c ∈ text.toList, ' ' ≤ c

instance (text : String) : Decidable (IsPlain text) :=
  decidable_of_iff (text.toList.all (' ' ≤ ·) = true) (by simp [IsPlain])

theorem isPlain_ofList {cs : List Char} : IsPlain (String.ofList cs) ↔ ∀ c ∈ cs, ' ' ≤ c := by
  rw [IsPlain, String.toList_ofList]

theorem IsPlain.append {a b : String} (ha : IsPlain a) (hb : IsPlain b) : IsPlain (a ++ b) := by
  intro c hc
  rw [String.toList_append] at hc
  rcases List.mem_append.1 hc with h | h
  · exact ha c h
  · exact hb c h

theorem le_of_isDigit {c : Char} (h : c.isDigit = true) : ' ' ≤ c := by
  simp only [Char.isDigit, Bool.and_eq_true, decide_eq_true_eq] at h
  exact Nat.le_trans (by decide) h.1

theorem le_toLower {c : Char} (h : ' ' ≤ c) : ' ' ≤ c.toLower := by
  unfold Char.toLower
  split
  · rename_i hupper
    show ' '.val ≤ c.val + _
    grind
  · exact h

theorem isPlain_intercalate {separator : String} (hs : IsPlain separator) {texts : List String}
    (h : ∀ t ∈ texts, IsPlain t) : IsPlain (separator.intercalate texts) := by
  induction texts with
  | nil => simp [IsPlain]
  | cons t rest ih =>
    have ht := h t List.mem_cons_self
    have hrest := ih fun u hu => h u (List.mem_cons_of_mem _ hu)
    cases rest with
    | nil => simpa using ht
    | cons next rest =>
      rw [String.intercalate_cons_cons]
      exact (ht.append hs).append hrest

/-- A line feed ends the text as one line, and takes nothing of it along. -/
def IsLine (line : String) : Prop :=
  '\n' ∉ line.toList ∧ line.toList.getLast? ≠ some '\r'

theorem IsPlain.isLine {line : String} (h : IsPlain line) : IsLine line := by
  refine ⟨fun hmem => absurd (h _ hmem) (by decide), fun hlast => ?_⟩
  exact absurd (h _ (List.mem_of_getLast? hlast)) (by decide)

/-- Whatever stands before it, a plain text ends a line well. -/
theorem isLine_append {start ending : String} (hstart : '\n' ∉ start.toList)
    (hending : IsPlain ending) (hne : ending ≠ "") : IsLine (start ++ ending) := by
  have hline := hending.isLine
  constructor
  · simpa [hstart] using hline.1
  · rw [String.toList_append, List.getLast?_append]
    cases hlast : ending.toList.getLast? with
    | none => simp [hne] at hlast
    | some c => simpa [hlast] using hline.2

theorem lines_append {line : String} (h : IsLine line) (rest : List Char) :
    lines (line.toList ++ '\n' :: rest) = line.toList :: lines rest := by
  have hkeep : dropReturn line.toList.reverse = line.toList.reverse := by
    have hlast := h.2
    rw [← List.head?_reverse] at hlast
    unfold dropReturn
    split
    · rename_i tail hreverse
      rw [hreverse] at hlast
      exact absurd rfl hlast
    · rfl
  rw [lines, linesFrom_append h.1, List.append_nil, hkeep, List.reverse_reverse]

/-- Lines that each have their line feed are the first lines of the text. -/
theorem lines_flatMap {written : List String} (h : ∀ line ∈ written, IsLine line)
    (rest : List Char) :
    lines (written.flatMap (fun line => line.toList ++ ['\n']) ++ rest) =
      written.map String.toList ++ lines rest := by
  induction written with
  | nil => rfl
  | cons line others ih =>
    have hline := h line List.mem_cons_self
    have hothers := ih fun l hl => h l (List.mem_cons_of_mem _ hl)
    rw [List.flatMap_cons, List.append_assoc, List.append_assoc, List.singleton_append,
      lines_append hline, hothers]
    rfl

theorem exists_dropReturn_concat {c : Char} (h : c ≠ '\r') (w : List Char) :
    ∃ v, dropReturn (w ++ [c]) = v ++ [c] := by
  unfold dropReturn
  split
  · rename_i tail heq
    cases w with
    | nil => exact absurd (List.cons.inj heq).1 h
    | cons d w => exact ⟨w, (List.cons.inj heq).2.symm⟩
  · exact ⟨w, rfl⟩

/-- A text's first line begins with its first character, unless that is part of a line's end. -/
theorem exists_lines_cons {c : Char} (hfeed : c ≠ '\n') (hreturn : c ≠ '\r') (cs : List Char) :
    ∃ line others, lines (c :: cs) = (c :: line) :: others := by
  have hrun : ∀ w, ∃ line others, linesFrom (w ++ [c]) cs = (c :: line) :: others := by
    induction cs with
    | nil =>
      intro w
      exact ⟨w.reverse, [], by simp [linesFrom, flush]⟩
    | cons d rest ih =>
      intro w
      by_cases hd : d = '\n'
      · obtain ⟨v, hv⟩ := exists_dropReturn_concat hreturn w
        exact ⟨v.reverse, linesFrom [] rest, by simp [linesFrom, hd, hv]⟩
      · rw [linesFrom, if_neg hd]
        exact ih (d :: w)
  have hline := hrun []
  rw [lines, linesFrom, if_neg hfeed]
  exact hline

end Text

open Text (IsPlain IsLine)

/-! ### Numbers -/

theorem Numeral.isPlain_ofWord (w : Int64) : IsPlain (ofWord w) := by
  refine Text.isPlain_ofList.2 fun c hc => ?_
  rcases mem_ofInt hc with rfl | hdigit
  · decide
  · exact Text.le_of_isDigit hdigit

theorem Decimal.Digit.le_toChar (d : Digit) : ' ' ≤ d.toChar := by
  have hall : ∀ d : Digit, ' ' ≤ d.toChar := by decide
  exact hall d

theorem Numeral.isPlain_toString (n : Nat) : IsPlain (toString n) := by
  intro c hc
  rw [Nat.toString_eq_repr, Nat.toList_repr] at hc
  exact Text.le_of_isDigit (isDigit_of_mem_ofNat hc)

namespace Quantity

theorem isPlain_signed {negative : Bool} {text : String} (h : IsPlain text) :
    IsPlain (signed negative text) := by
  cases negative with
  | false => exact h
  | true => exact .append (by decide) h

theorem isPlain_amount (count : Nat) {unit : String} (h : IsPlain unit) :
    IsPlain (amount count unit) := by
  have hunit : IsPlain (if count = 1 then unit else unit ++ "s") := by
    split
    · exact h
    · exact h.append (by decide)
  exact ((Numeral.isPlain_toString count).append (by decide)).append hunit

theorem isPlain_spanText (total : Nat) : IsPlain (spanText total) := by
  have htwo (n m : Nat) {large small : String} (hlarge : IsPlain large) (hsmall : IsPlain small) :
      IsPlain (amount n large ++ " " ++ amount m small) :=
    ((isPlain_amount n hlarge).append (by decide)).append (isPlain_amount m hsmall)
  unfold spanText
  split
  · exact htwo _ _ (by decide) (by decide)
  split
  · exact htwo _ _ (by decide) (by decide)
  split
  · exact htwo _ _ (by decide) (by decide)
  split
  · exact htwo _ _ (by decide) (by decide)
  · exact isPlain_amount total (by decide)

theorem isPlain_twoPlaces (num den : Nat) : IsPlain (twoPlaces num den) := by
  refine Text.isPlain_ofList.2 fun c hc => ?_
  simp only [Decimal.Number.write, Decimal.Number.ofQuotient, Decimal.Number.exponentText,
    Bool.false_eq_true, if_false, List.nil_append, List.append_nil, List.mem_append] at hc
  rcases hc with hwhole | hfraction
  · exact Text.le_of_isDigit (Numeral.isDigit_of_mem_ofNat hwhole)
  · unfold Decimal.Number.fractionText at hfraction
    split at hfraction
    · exact nomatch hfraction
    · rcases List.mem_cons.1 hfraction with rfl | hdigits
      · decide
      · obtain ⟨d, -, rfl⟩ := List.mem_map.1 hdigits
        exact d.le_toChar

theorem isPlain_inUnits (size scale : Nat) {units : List String} (h : ∀ u ∈ units, IsPlain u) :
    IsPlain (inUnits size scale units) := by
  have hnumber (scale : Nat) {unit : String} (hu : IsPlain unit) :
      IsPlain (twoPlaces size scale ++ " " ++ unit) :=
    ((isPlain_twoPlaces size scale).append (by decide)).append hu
  induction units generalizing scale with
  | nil => exact fun c hc => nomatch hc
  | cons unit rest ih =>
    have hunit := hnumber scale (h unit List.mem_cons_self)
    have hrest := ih (1024 * scale) fun u hu => h u (List.mem_cons_of_mem _ hu)
    cases rest with
    | nil => exact hunit
    | cons next units =>
      unfold inUnits
      split
      · exact hunit
      · exact hrest

/-- What a quantity is shown as is plain. -/
theorem isPlain_render (quantity : Quantity) (value : Int64) : IsPlain (quantity.render value) := by
  cases quantity with
  | count => exact Numeral.isPlain_ofWord value
  | hours => exact isPlain_signed (isPlain_spanText _)
  | percent => exact isPlain_signed ((isPlain_twoPlaces _ _).append (by decide))
  | bytes =>
    apply isPlain_signed
    split
    · exact (Numeral.isPlain_toString _).append (by decide)
    · exact isPlain_inUnits _ _ (by decide)

end Quantity

/-! ### Summaries -/

namespace Attribute

theorem isPlain_name (a : Attribute) : IsPlain a.name := by
  cases a <;> decide

theorem isPlain_phrase {name : String} (h : IsPlain name) : IsPlain (phrase name) := by
  unfold phrase
  cases hsplit : Text.splitAtFirst? '_' name.toList with
  | none => exact h
  | some parts =>
    obtain ⟨first, rest⟩ := parts
    obtain ⟨-, hname⟩ := Text.splitAtFirst?_eq_some_iff.1 hsplit
    rw [IsPlain, hname] at h
    refine Text.isPlain_ofList.2 fun c hc => ?_
    rcases List.mem_append.1 hc with hfirst | hc
    · exact h c (List.mem_append_left _ hfirst)
    rcases List.mem_cons.1 hc with rfl | hc
    · decide
    obtain ⟨d, hd, rfl⟩ := List.mem_map.1 hc
    split
    · decide
    · exact Text.le_toLower (h d (List.mem_append_right _ (List.mem_cons_of_mem _ hd)))

theorem isPlain_label (a : Attribute) : IsPlain a.label := by
  unfold label
  split
  · decide
  · decide
  · decide
  · exact isPlain_phrase a.isPlain_name

end Attribute

namespace Assessment

/-- All hints are plain. -/
def PlainHints (a : Assessment) : Prop :=
  ∀ hint ∈ a.hints, IsPlain hint

theorem plainHints_criticalIf {condition : Bool} {hint : String} (h : IsPlain hint) :
    (criticalIf condition hint).PlainHints := by
  cases condition <;> simp [PlainHints, criticalIf, h]

theorem isPlain_discoveryHint (reference : Int64) : IsPlain (discoveryHint reference) := by
  have hvalue := Numeral.isPlain_ofWord reference
  exact .append (.append (by decide) hvalue) (by decide)

theorem isPlain_rateHint (reference : Int64) : IsPlain (rateHint reference) := by
  have hvalue := Numeral.isPlain_ofWord reference
  exact .append (by decide) hvalue

theorem PlainHints.crossCheck {a : Assessment} (h : a.PlainHints) (pair : NormalizedPair) :
    (a.crossCheck pair).PlainHints := by
  have hvalue : IsPlain ("normalized value: " ++ Numeral.ofWord pair.value) :=
    .append (by decide) (Numeral.isPlain_ofWord _)
  intro hint hmem
  rcases List.mem_append.1 hmem with hmem | hmem
  · exact h hint hmem
  · rw [List.mem_singleton.1 hmem]
    split
    · exact hvalue.append (by decide)
    · exact hvalue

/-- A summary is plain if its parts are. -/
theorem isPlain_summary {a : Assessment} (h : a.PlainHints) {label rendered : String}
    (hlabel : IsPlain label) (hrendered : IsPlain rendered) : IsPlain (a.summary label rendered) := by
  have hhints : IsPlain (hintText a.hints) := by
    unfold hintText
    split
    · decide
    · have hlist : IsPlain (", ".intercalate a.hints) := Text.isPlain_intercalate (by decide) h
      exact .append (.append (by decide) hlist) (by decide)
  exact ((hlabel.append (by decide)).append hrendered).append hhints

end Assessment

namespace Cycle

theorem plainHints_compare (r : Reading) (a : Attribute) (value reference : Int64) :
    (compare r a value reference).PlainHints := by
  have hhint := Assessment.isPlain_discoveryHint reference
  unfold compare
  split
  · exact Assessment.plainHints_criticalIf hhint
  · split
    · exact (Assessment.plainHints_criticalIf hhint).crossCheck _
    · exact Assessment.plainHints_criticalIf hhint
  · exact Assessment.plainHints_criticalIf hhint

theorem plainHints_assessment (r : Reading) (b : Baseline) (x : Float) (a : Attribute)
    (value : Int64) : (assessment r b x a value).PlainHints := by
  unfold assessment
  split
  · exact fun hint hmem => nomatch hmem
  · split
    · exact Assessment.plainHints_criticalIf (Assessment.isPlain_rateHint _)
    · exact plainHints_compare r a value _

end Cycle

/-! ### Results -/

namespace Report

/-- The lines of a result are plain. -/
theorem isPlain_resultLines {r : Reading} {b : Baseline} {x : Float} {y : AttributeResult}
    (hy : y ∈ Cycle.results r b x) {line : String} (h : line ∈ resultLines y) : IsPlain line := by
  obtain ⟨a, -, ha⟩ := List.mem_filterMap.1 hy
  obtain ⟨-, v, -, rfl⟩ := Cycle.result?_eq_some_iff.1 ha
  have hsymbol : ∀ verdict : Verdict, IsPlain verdict.symbol := by
    intro verdict
    cases verdict <;> decide
  have hsummary := Assessment.isPlain_summary (Cycle.plainHints_assessment r b x a v)
    a.isPlain_label (a.quantity.isPlain_render v)
  simp only [resultLines, List.mem_cons, List.not_mem_nil, or_false] at h
  rcases h with rfl | rfl
  · exact ((hsymbol _).append (by decide)).append hsummary
  · have hmetric : IsPlain ("metric " ++ a.name ++ "=") :=
      .append (.append (by decide) a.isPlain_name) (by decide)
    exact hmetric.append (Numeral.isPlain_ofWord v)

theorem toList_text (r : Report) :
    r.text.toList = r.lines.flatMap (fun line => line.toList ++ ['\n']) := by
  simp [text, String.toList_join, List.flatMap_map]

end Report

end DiskHealth
