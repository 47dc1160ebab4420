import DiskHealth.Proofs.Text.Words
import DiskHealth.Telemetry.Table

/-!
Tables written as text. A line is read by its words alone: only if the first begins with `<<<` and
the last ends with `>>>` can it be a header (`header?_eq_none`). So the lines under a header for the
disks give back their rows, one each, if none of them looks like a header
(`ofSection_sectionText`).
-/

namespace DiskHealth

theorem Text.stripEnd?_eq_some_iff {ending cs rest : List Char} :
    stripEnd? ending cs = some rest ↔ cs = rest ++ ending := by
  unfold stripEnd?
  rw [Option.map_eq_some_iff]
  constructor
  · rintro ⟨inner, hstrip, rfl⟩
    have hreverse := congrArg List.reverse (stripStart?_eq_some_iff.1 hstrip)
    simpa using hreverse
  · rintro rfl
    exact ⟨rest.reverse, stripStart?_eq_some_iff.2 (by simp), by simp⟩

namespace Telemetry.Table

/-- A row whose first word begins, and whose last word ends, like a header line. -/
def LooksLikeHeader (row : Row) : Prop :=
  (∃ word ∈ row.head?, ['<', '<', '<'] <+: word.toList) ∧
    ∃ word ∈ row.getLast?, ['>', '>', '>'] <:+ word.toList

theorem header?_eq_none {line : List Char} (h : ¬LooksLikeHeader (Text.fields line)) :
    header? line = none := by
  rw [Option.eq_none_iff_forall_ne_some]
  intro name hname
  apply h
  unfold header? at hname
  obtain ⟨opened, hstart, hname⟩ := Option.bind_eq_some_iff.1 hname
  obtain ⟨inner, hend, -⟩ := Option.bind_eq_some_iff.1 hname
  have hopened := Text.stripStart?_eq_some_iff.1 hstart
  have hinner := Text.stripEnd?_eq_some_iff.1 hend
  unfold Text.fields
  rw [← Text.words_trim, hopened]
  have hopening : Text.IsWord ['<', '<', '<'] := by decide
  have hclosing : Text.IsWord ['>', '>', '>'] := by decide
  constructor
  · obtain ⟨w, hw⟩ := Text.head?_words_append hopening opened
    refine ⟨String.ofList (['<', '<', '<'] ++ w), ?_, ?_⟩
    · rw [List.head?_map, hw]
      rfl
    · rw [String.toList_ofList]
      exact List.prefix_append _ _
  · obtain ⟨w, hw⟩ := Text.getLast?_words_append hclosing (['<', '<', '<'] ++ inner)
    refine ⟨String.ofList (w ++ ['>', '>', '>']), ?_, ?_⟩
    · rw [hinner, ← List.append_assoc, List.getLast?_map, hw]
      rfl
    · rw [String.toList_ofList]
      exact List.suffix_append _ _

theorem rowOf_of_fields {line : List Char} (h : Text.fields line ≠ []) :
    rowOf line = [Text.fields line] := by
  unfold rowOf
  split
  · rename_i hnil
    exact absurd hnil h
  · rfl

theorem sectionRows_of_noHeader {name : List Char} {lines : List (List Char)}
    (h : ∀ line ∈ lines, header? line = none) (hrow : ∀ line ∈ lines, Text.fields line ≠ []) :
    sectionRows name true lines = lines.map Text.fields := by
  induction lines with
  | nil => rfl
  | cons line rest ih =>
    rw [sectionRows, h line List.mem_cons_self]
    simp only [if_true]
    rw [rowOf_of_fields (hrow line List.mem_cons_self),
      ih (fun l hl => h l (List.mem_cons_of_mem _ hl))
        fun l hl => hrow l (List.mem_cons_of_mem _ hl)]
    rfl

/-- The header line of the disks' section. -/
def smartHeader : List Char :=
  "<<<smart>>>".toList

theorem smartHeader_eq :
    smartHeader = ['<', '<', '<', 's', 'm', 'a', 'r', 't', '>', '>', '>'] := rfl

theorem header?_smartHeader : header? smartHeader = some smartSection.toList := rfl

/-- The text of some lines under the header of the disks' section. -/
def sectionText (texts : List (List Char)) : String :=
  String.ofList (smartHeader ++ '\n' :: texts.flatMap (· ++ ['\n']))

theorem map_fields_lines {texts : List (List Char)} (h : ∀ text ∈ texts, '\n' ∉ text) :
    (Text.lines (texts.flatMap (· ++ ['\n']))).map Text.fields = texts.map Text.fields := by
  induction texts with
  | nil => rfl
  | cons text rest ih =>
    obtain ⟨found, hlines, hwords⟩ := Text.exists_lines_append (h text List.mem_cons_self)
      (rest.flatMap (· ++ ['\n']))
    rw [List.flatMap_cons, List.append_assoc, List.singleton_append, hlines, List.map_cons,
      ih fun t ht => h t (List.mem_cons_of_mem _ ht), List.map_cons, Text.fields, hwords]
    rfl

/-- Lines with words that do not look like headers give back their rows. -/
theorem ofSection_sectionText {texts : List (List Char)} (hline : ∀ text ∈ texts, '\n' ∉ text)
    (hrow : ∀ text ∈ texts, Text.fields text ≠ [])
    (hheader : ∀ text ∈ texts, ¬LooksLikeHeader (Text.fields text)) :
    ofSection (sectionText texts) smartSection = texts.map Text.fields := by
  have hfields := map_fields_lines hline
  have hplain : '\n' ∉ smartHeader := by
    rw [smartHeader_eq]
    decide
  have hlines : Text.lines (sectionText texts).toList =
      smartHeader :: Text.lines (texts.flatMap (· ++ ['\n'])) := by
    rw [sectionText, String.toList_ofList]
    exact Text.linesFrom_append hplain [] _
  have hfound : ∀ line ∈ Text.lines (texts.flatMap (· ++ ['\n'])),
      ∃ text ∈ texts, Text.fields line = Text.fields text := by
    intro line hline
    have hmem := List.mem_map_of_mem (f := Text.fields) hline
    rw [hfields] at hmem
    obtain ⟨text, htext, heq⟩ := List.mem_map.1 hmem
    exact ⟨text, htext, heq.symm⟩
  unfold ofSection
  rw [hlines]
  simp only [List.any_cons, header?_smartHeader, Option.isSome_some, Bool.true_or, if_true,
    sectionRows, BEq.rfl]
  rw [sectionRows_of_noHeader, hfields]
  · intro line hline
    obtain ⟨text, htext, heq⟩ := hfound line hline
    exact header?_eq_none (heq ▸ hheader text htext)
  · intro line hline
    obtain ⟨text, htext, heq⟩ := hfound line hline
    exact heq ▸ hrow text htext

end Telemetry.Table

end DiskHealth
