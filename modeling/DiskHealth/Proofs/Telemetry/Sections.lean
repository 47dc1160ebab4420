import DiskHealth.Proofs.Telemetry.Headings
import DiskHealth.Proofs.Telemetry.Written

/-!
Sections of an agent's output. A header line opens a section, and the lines up to the next header
belong to it, so one pass with a flag takes the lines under the headers of one name
(`sectionRows_eq`). The main statement says which rows a section has, that the lines of other
sections and those before the first header do not count for it, and that outputs which begin with a
header can be put together.
-/

namespace DiskHealth

theorem Text.lines_append_lineFeed (body rest : List Char) :
    lines (body ++ '\n' :: rest) = lines (body ++ ['\n']) ++ lines rest := by
  have hrun : ∀ current, linesFrom current (body ++ '\n' :: rest) =
      linesFrom current (body ++ ['\n']) ++ lines rest := by
    induction body with
    | nil =>
      intro current
      simp [linesFrom, lines, flush]
    | cons c tail ih =>
      intro current
      rw [List.cons_append, List.cons_append, linesFrom, linesFrom, ih, ih]
      split <;> rfl
  exact hrun []

namespace Telemetry.Table

/-- A line is a header if it begins with `<<<` and the rest ends with `>>>`, blanks around it apart.
Its section has the name in between, up to the first colon. -/
theorem header?_eq_some_iff {line name : List Char} :
    header? line = some name ↔
      ∃ inner, Text.trim line = ['<', '<', '<'] ++ inner ++ ['>', '>', '>'] ∧
        name = inner.takeWhile (· ≠ ':') := by
  unfold header?
  constructor
  · intro h
    obtain ⟨opened, hstart, h⟩ := Option.bind_eq_some_iff.1 h
    obtain ⟨inner, hend, h⟩ := Option.bind_eq_some_iff.1 h
    refine ⟨inner, ?_, (Option.some.inj h).symm⟩
    rw [Text.stripStart?_eq_some_iff.1 hstart, Text.stripEnd?_eq_some_iff.1 hend,
      List.append_assoc]
  · rintro ⟨inner, htrim, rfl⟩
    rw [List.append_assoc] at htrim
    have hstart := Text.stripStart?_eq_some_iff.2 htrim
    have hend : Text.stripEnd? ['>', '>', '>'] (inner ++ ['>', '>', '>']) = some inner :=
      Text.stripEnd?_eq_some_iff.2 rfl
    rw [hstart]
    show (Text.stripEnd? ['>', '>', '>'] (inner ++ ['>', '>', '>']) >>= _) = _
    rw [hend]
    rfl

/-- The rows of some lines are those of their words, without the blank lines. -/
theorem flatMap_rowOf (lines : List (List Char)) :
    lines.flatMap rowOf = (lines.map Text.fields).filter (· ≠ []) := by
  induction lines with
  | nil => rfl
  | cons line rest ih =>
    rw [List.flatMap_cons, ih, List.map_cons]
    by_cases h : Text.fields line = []
    · have hrow : rowOf line = [] := by rw [rowOf, h]
      rw [hrow, h]
      rfl
    · rw [rowOf_of_fields h, List.filter_cons_of_pos (by simpa using h)]
      rfl

/-- The flag of a pass says whether the nearest header names the section. -/
theorem sectionRows_eq (name : List Char) (current : Option (List Char))
    (lines : List (List Char)) :
    sectionRows name (current == some name) lines =
      (under header? current name lines).flatMap rowOf := by
  induction lines generalizing current with
  | nil => rfl
  | cons line rest ih =>
    rw [sectionRows, under_cons, List.flatMap_append, ← ih]
    cases hline : header? line with
    | some found => simp
    | none => by_cases hname : current = some name <;> simp [hname]

/-- Some line of an output is a header. -/
def HasHeader (raw : String) : Prop :=
  ∃ line ∈ Text.lines raw.toList, header? line ≠ none

/-- The first line of an output is a header. -/
def BeginsWithHeader (raw : String) : Prop :=
  ∃ line ∈ (Text.lines raw.toList).head?, header? line ≠ none

theorem hasHeader_iff {raw : String} :
    HasHeader raw ↔ lastHeading? header? (Text.lines raw.toList) ≠ none := by
  rw [Ne, lastHeading?_eq_none_iff]
  simp only [HasHeader, Classical.not_forall, exists_prop, ne_eq]

theorem BeginsWithHeader.hasHeader {raw : String} (h : BeginsWithHeader raw) : HasHeader raw := by
  obtain ⟨line, hline, hheader⟩ := h
  exact ⟨line, List.mem_of_mem_head? hline, hheader⟩

variable {raw : String} (name : String)

theorem ofSection_of_noHeader (h : ¬HasHeader raw) : ofSection raw name = ofText raw := by
  have hnone : ((Text.lines raw.toList).any fun line => (header? line).isSome) = false := by
    rw [List.any_eq_false]
    intro line hline hheader
    exact h ⟨line, hline, Option.isSome_iff_ne_none.1 hheader⟩
  unfold ofSection
  simp only [hnone]
  rfl

theorem ofSection_of_header (h : HasHeader raw) :
    ofSection raw name = (under header? none name.toList (Text.lines raw.toList)).flatMap rowOf := by
  obtain ⟨line, hline, hheader⟩ := h
  have hany : ((Text.lines raw.toList).any fun line => (header? line).isSome) = true :=
    List.any_eq_true.2 ⟨line, hline, Option.isSome_iff_ne_none.2 hheader⟩
  have hflag : ((none : Option (List Char)) == some name.toList) = false := rfl
  unfold ofSection
  simp only [hany, if_true]
  rw [← sectionRows_eq, hflag]

theorem ofSection_of_edited {raw' : String} (h : HasHeader raw)
    (hedited : EditedOutside header? name.toList (Text.lines raw.toList) (Text.lines raw'.toList)) :
    ofSection raw' name = ofSection raw name := by
  have h' : HasHeader raw' := by
    rw [hasHeader_iff, hedited.lastHeading?_eq]
    exact hasHeader_iff.1 h
  rw [ofSection_of_header name h, ofSection_of_header name h', hedited.under_eq]

theorem ofSection_append {body more : String} (h : HasHeader (body ++ "\n"))
    (hmore : BeginsWithHeader more) :
    ofSection (body ++ "\n" ++ more) name =
      ofSection (body ++ "\n") name ++ ofSection more name := by
  have hlines : Text.lines (body ++ "\n" ++ more).toList =
      Text.lines (body ++ "\n").toList ++ Text.lines more.toList := by
    have hcut := Text.lines_append_lineFeed body.toList more.toList
    simpa using hcut
  have hall : HasHeader (body ++ "\n" ++ more) := by
    obtain ⟨line, hline, hheader⟩ := h
    refine ⟨line, ?_, hheader⟩
    rw [hlines]
    exact List.mem_append_left _ hline
  have hown : ∀ current, under header? current name.toList (Text.lines more.toList) =
      under header? none name.toList (Text.lines more.toList) := by
    obtain ⟨line, hline, hheader⟩ := hmore
    obtain ⟨rest, hrest⟩ := List.head?_eq_some_iff.1 hline
    obtain ⟨found, hfound⟩ := Option.ne_none_iff_exists'.1 hheader
    intro current
    rw [hrest, under_of_heading hfound]
  rw [ofSection_of_header name hall, ofSection_of_header name h,
    ofSection_of_header name hmore.hasHeader, hlines, under_append, hown, List.flatMap_append]

/-- The rows of a section. Output without any header is its own only section. Otherwise the rows are
the words of the lines that are neither blank nor headers and for which the nearest header before
them has the name, up to a colon. Lines that are no headers may be put in, taken out or changed
before the first header and under headers of other names, and nothing changes; and an output that
begins with a header adds its rows to those of an output with a header that ends in a line feed. -/
theorem ofSection_selects (raw name : String) :
    (∀ line found, header? line = some found ↔
      ∃ inner, Text.trim line = ['<', '<', '<'] ++ inner ++ ['>', '>', '>'] ∧
        found = inner.takeWhile (· ≠ ':')) ∧
    (¬HasHeader raw → ofSection raw name = ofText raw) ∧
    (HasHeader raw →
      ofSection raw name =
        ((under header? none name.toList (Text.lines raw.toList)).map Text.fields).filter
          (· ≠ []) ∧
      (∀ raw' : String,
        EditedOutside header? name.toList (Text.lines raw.toList) (Text.lines raw'.toList) →
          ofSection raw' name = ofSection raw name) ∧
      ∀ body more : String, raw = body ++ "\n" → BeginsWithHeader more →
        ofSection (raw ++ more) name = ofSection raw name ++ ofSection more name) := by
  refine ⟨fun _ _ => header?_eq_some_iff, ofSection_of_noHeader name, fun h => ⟨?_, ?_, ?_⟩⟩
  · rw [ofSection_of_header name h, flatMap_rowOf]
  · exact fun raw' hedited => ofSection_of_edited name h hedited
  · rintro body more rfl hmore
    exact ofSection_append name h hmore

/-- A section of the disks, and one of file systems after it. -/
def mixedOutput : String :=
  "<<<smart:sep(0)>>>\na  b\n<<<df>>>\n5%\n"

/-- The same section of the disks, before other lines about file systems. -/
def editedOutput : String :=
  "<<<smart:sep(0)>>>\na  b\n<<<df>>>\n7%\n\n"

theorem edited_mixedOutput : EditedOutside header? "smart".toList
    (Text.lines mixedOutput.toList) (Text.lines editedOutput.toList) := by
  have hmixed : Text.lines mixedOutput.toList =
      ["<<<smart:sep(0)>>>".toList, "a  b".toList, "<<<df>>>".toList] ++ ["5%".toList] ++ [] := by
    decide +kernel
  have hedited : Text.lines editedOutput.toList =
      ["<<<smart:sep(0)>>>".toList, "a  b".toList, "<<<df>>>".toList] ++ ["7%".toList, []] ++ [] := by
    decide +kernel
  rw [hmixed, hedited]
  exact .edit .same (by decide +kernel) (by decide +kernel)

theorem ofSection_selects_mixed :
    ofSection editedOutput "smart" = [["a", "b"]] ∧
      ofSection (mixedOutput ++ "<<<smart>>>\nc") "smart" = [["a", "b"], ["c"]] := by
  have hheader : HasHeader mixedOutput :=
    ⟨"<<<df>>>".toList, by decide +kernel, by decide +kernel⟩
  obtain ⟨hrows, hedits, happend⟩ := (ofSection_selects mixedOutput "smart").2.2 hheader
  have hmore : BeginsWithHeader "<<<smart>>>\nc" :=
    ⟨"<<<smart>>>".toList, by decide +kernel, by decide +kernel⟩
  rw [hedits editedOutput edited_mixedOutput,
    happend "<<<smart:sep(0)>>>\na  b\n<<<df>>>\n5%" "<<<smart>>>\nc" rfl hmore]
  decide +kernel

end Telemetry.Table

end DiskHealth
