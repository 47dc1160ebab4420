import DiskHealth.Proofs.Telemetry.Sections
import DiskHealth.Proofs.Telemetry.Shape

/-!
The canonical text of a table: one line for each row, with single spaces between its words. It gives
the table back (`ofText_text`), whether the last line has its line feed or not (`ofText_lineFeed`).
Whether a line is a header can be told from its words alone (`header?_eq_none_iff`), so no row of a
section turns into a header when it is written anew, and the section reads the same as before.
-/

namespace DiskHealth

/-- A beginning and an end that share no character do not overlap. -/
theorem Text.exists_between {start ending cs : List Char} (hapart : ∀ c ∈ start, c ∉ ending)
    (hstart : start <+: cs) (hend : ending <:+ cs) : ∃ inner, cs = start ++ inner ++ ending := by
  obtain ⟨after, hafter⟩ := hstart
  obtain ⟨before, hbefore⟩ := hend
  rcases List.append_eq_append_iff.1 (hafter.trans hbefore.symm) with
    ⟨inner, -, hinner⟩ | ⟨shared, hs, he⟩
  · exact ⟨inner, by rw [← hafter, hinner, List.append_assoc]⟩
  · cases shared with
    | nil => exact ⟨[], by rw [← hafter, List.append_nil, he, List.nil_append]⟩
    | cons c rest =>
      have hc : c ∈ start := by simp [hs]
      exact absurd (by simp [he]) (hapart c hc)

namespace Telemetry

/-- A row as text, with single spaces between its words. -/
def Row.text (row : Row) : List Char :=
  [' '].intercalate (row.map String.toList)

theorem Row.fields_text {row : Row} (h : row.OfWords) : Text.fields row.text = row := by
  have hwords : ∀ w ∈ row.map String.toList, Text.IsWord w := by
    intro w hw
    obtain ⟨word, hword, rfl⟩ := List.mem_map.1 hw
    exact h word hword
  rw [Text.fields, text, Text.words_of_spelled (Text.spelled_intercalate hwords), List.map_map]
  exact List.map_id'' (fun _ => String.ofList_toList) row

theorem Row.newline_notMem_text {row : Row} (h : row.OfWords) : '\n' ∉ row.text := by
  apply Text.newline_notMem_intercalate
  intro w hw
  obtain ⟨word, hword, rfl⟩ := List.mem_map.1 hw
  exact h word hword

namespace Table

/-- The table of some text: every row has words. -/
def Canonical (table : Table) : Prop :=
  ∀ row ∈ table, row ≠ [] ∧ Row.OfWords row

/-- The rows of a table, one per line. -/
def text (table : Table) : String :=
  String.ofList ((table.map Row.text).flatMap (· ++ ['\n']))

theorem eq_fields_of_mem_rowOf {line : List Char} {row : Row} (h : row ∈ rowOf line) :
    row = Text.fields line := by
  unfold rowOf at h
  split at h
  · cases h
  · exact List.mem_singleton.1 h

theorem ne_nil_of_mem_rowOf {line : List Char} {row : Row} (h : row ∈ rowOf line) : row ≠ [] := by
  unfold rowOf at h
  split at h
  · cases h
  · rename_i hne
    rw [List.mem_singleton.1 h]
    exact hne

theorem canonical_ofText (raw : String) : (ofText raw).Canonical := by
  intro row hrow
  obtain ⟨line, -, hline⟩ := List.mem_flatMap.1 hrow
  exact ⟨ne_nil_of_mem_rowOf hline, ofWords_rowOf hline⟩

theorem Canonical.map_fields_text {table : Table} (h : table.Canonical) :
    (table.map Row.text).map Text.fields = table := by
  rw [List.map_map]
  calc table.map (Text.fields ∘ Row.text) = table.map id :=
        List.map_congr_left fun row hrow => Row.fields_text (h row hrow).2
    _ = table := List.map_id table

theorem Canonical.newline_notMem {table : Table} (h : table.Canonical) :
    ∀ line ∈ table.map Row.text, '\n' ∉ line := by
  intro line hline
  obtain ⟨row, hrow, rfl⟩ := List.mem_map.1 hline
  exact Row.newline_notMem_text (h row hrow).2

/-- A table of words is the table of its own text. -/
theorem ofText_text {table : Table} (h : table.Canonical) : ofText table.text = table := by
  rw [ofText, text, String.toList_ofList, flatMap_rowOf, map_fields_lines h.newline_notMem,
    h.map_fields_text, List.filter_eq_self]
  intro row hrow
  simpa using (h row hrow).1

/-! ### Headers by their words -/

/-- A line is a header exactly if its first word begins and its last word ends like one. -/
theorem header?_eq_none_iff {line : List Char} :
    header? line = none ↔ ¬LooksLikeHeader (Text.fields line) := by
  constructor
  · rintro hnone ⟨⟨first, hfirst, hopen⟩, last, hlast, hclose⟩
    rw [Text.fields, List.head?_map] at hfirst
    rw [Text.fields, List.getLast?_map] at hlast
    obtain ⟨w, hw, rfl⟩ := Option.map_eq_some_iff.1 hfirst
    obtain ⟨v, hv, rfl⟩ := Option.map_eq_some_iff.1 hlast
    rw [String.toList_ofList] at hopen hclose
    have hapart : ∀ c ∈ ['<', '<', '<'], c ∉ ['>', '>', '>'] := by simp
    obtain ⟨inner, hinner⟩ := Text.exists_between hapart
      (hopen.trans (Text.prefix_trim_of_head? hw)) (hclose.trans (Text.suffix_trim_of_getLast? hv))
    have hsome := header?_eq_some_iff.2 ⟨inner, hinner, rfl⟩
    rw [hnone] at hsome
    cases hsome
  · exact header?_eq_none

theorem header?_eq_none_congr {line other : List Char} (h : Text.fields other = Text.fields line) :
    header? other = none ↔ header? line = none := by
  rw [header?_eq_none_iff, header?_eq_none_iff, h]

theorem mem_sectionRows {name : List Char} {inside : Bool} {lines : List (List Char)} {row : Row}
    (h : row ∈ sectionRows name inside lines) :
    ∃ line ∈ lines, header? line = none ∧ row ∈ rowOf line := by
  induction lines generalizing inside with
  | nil => cases h
  | cons line rest ih =>
    have hlater : ∀ {flag}, row ∈ sectionRows name flag rest →
        ∃ l ∈ line :: rest, header? l = none ∧ row ∈ rowOf l := by
      intro flag hrest
      obtain ⟨l, hl, hrow⟩ := ih hrest
      exact ⟨l, List.mem_cons_of_mem _ hl, hrow⟩
    unfold sectionRows at h
    split at h
    · exact hlater h
    · rename_i hplain
      rcases List.mem_append.1 h with hrow | hrest
      · split at hrow
        · exact ⟨line, List.mem_cons_self, hplain, hrow⟩
        · cases hrow
      · exact hlater hrest

/-- The rows of a section are rows of lines that are no headers. -/
theorem mem_ofSection {raw name : String} {row : Row} (h : row ∈ ofSection raw name) :
    ∃ line ∈ Text.lines raw.toList, header? line = none ∧ row ∈ rowOf line := by
  unfold ofSection at h
  dsimp only at h
  split at h
  · exact mem_sectionRows h
  · rename_i hnone
    obtain ⟨line, hline, hrow⟩ := List.mem_flatMap.1 h
    refine ⟨line, hline, ?_, hrow⟩
    cases hheader : header? line with
    | none => rfl
    | some found => exact absurd (List.any_eq_true.2 ⟨line, hline, by rw [hheader]; rfl⟩) hnone

theorem canonical_ofSection (raw name : String) : (ofSection raw name).Canonical := by
  intro row hrow
  obtain ⟨line, -, -, hline⟩ := mem_ofSection hrow
  exact ⟨ne_nil_of_mem_rowOf hline, ofWords_rowOf hline⟩

theorem not_looksLikeHeader_of_mem {raw name : String} {row : Row} (h : row ∈ ofSection raw name) :
    ¬LooksLikeHeader row := by
  obtain ⟨line, -, hplain, hrow⟩ := mem_ofSection h
  rw [eq_fields_of_mem_rowOf hrow]
  exact header?_eq_none_iff.1 hplain

/-- The rows of a section, written anew under the header, are the section's rows again. -/
theorem ofSection_sectionText_ofSection (raw name : String) :
    ofSection (sectionText ((ofSection raw name).map Row.text)) smartSection =
      ofSection raw name := by
  have hcanonical := canonical_ofSection raw name
  have hrow : ∀ line ∈ (ofSection raw name).map Row.text,
      ∃ row ∈ ofSection raw name, Text.fields line = row := by
    intro line hline
    obtain ⟨row, hrow, rfl⟩ := List.mem_map.1 hline
    exact ⟨row, hrow, Row.fields_text (hcanonical row hrow).2⟩
  rw [ofSection_sectionText hcanonical.newline_notMem, hcanonical.map_fields_text]
  · intro line hline
    obtain ⟨row, hrow, heq⟩ := hrow line hline
    exact heq ▸ (hcanonical row hrow).1
  · intro line hline
    obtain ⟨row, hrow, heq⟩ := hrow line hline
    exact heq ▸ not_looksLikeHeader_of_mem hrow

/-! ### The last line feed -/

theorem rowOf_congr {line other : List Char} (h : Text.fields other = Text.fields line) :
    rowOf other = rowOf line := by
  unfold rowOf
  rw [h]

theorem fields_dropReturn (w : List Char) :
    Text.fields (Text.dropReturn w).reverse = Text.fields w.reverse := by
  rw [Text.fields, Text.words_dropReturn, Text.fields]

theorem sectionRows_singleton (name : List Char) (inside : Bool) (line : List Char) :
    sectionRows name inside [line] =
      if header? line = none ∧ inside = true then rowOf line else [] := by
  rw [sectionRows]
  cases header? line with
  | none => cases inside <;> simp [sectionRows]
  | some found => simp [sectionRows]

section LastLine

variable (before : List (List Char)) (w : List Char)

theorem flatMap_rowOf_lineFeed :
    (before ++ [(Text.dropReturn w).reverse]).flatMap rowOf =
      (before ++ Text.flush w).flatMap rowOf := by
  cases w with
  | nil => simp [Text.flush, Text.dropReturn, rowOf, Text.fields, Text.words, Text.wordsFrom]
  | cons c rest => simp [Text.flush, rowOf_congr (fields_dropReturn (c :: rest))]

theorem any_header?_lineFeed :
    ((before ++ [(Text.dropReturn w).reverse]).any fun line => (header? line).isSome) =
      (before ++ Text.flush w).any fun line => (header? line).isSome := by
  cases w with
  | nil =>
    have hnone : header? [] = none := rfl
    simp [Text.flush, Text.dropReturn, hnone]
  | cons c rest =>
    have hheader : (header? (Text.dropReturn (c :: rest)).reverse).isSome =
        (header? (c :: rest).reverse).isSome := by
      rw [Bool.eq_iff_iff, Option.isSome_iff_ne_none, Option.isSome_iff_ne_none, Ne, Ne,
        header?_eq_none_congr (fields_dropReturn (c :: rest))]
    have hflush : Text.flush (c :: rest) = [(c :: rest).reverse] := rfl
    rw [hflush, List.any_append, List.any_append, List.any_cons, List.any_cons, hheader]

theorem sectionRows_lineFeed (name : List Char) (inside : Bool) :
    sectionRows name inside (before ++ [(Text.dropReturn w).reverse]) =
      sectionRows name inside (before ++ Text.flush w) := by
  induction before generalizing inside with
  | nil =>
    cases w with
    | nil => cases inside <;> rfl
    | cons c rest =>
      have hfields := fields_dropReturn (c :: rest)
      have hflush : Text.flush (c :: rest) = [(c :: rest).reverse] := rfl
      rw [hflush, List.nil_append, List.nil_append, sectionRows_singleton, sectionRows_singleton,
        rowOf_congr hfields]
      simp only [header?_eq_none_congr hfields]
  | cons line rest ih => simp only [List.cons_append, sectionRows, ih]

end LastLine

theorem exists_lines_text (raw : String) :
    ∃ before w, Text.lines raw.toList = before ++ Text.flush w ∧
      Text.lines (raw ++ "\n").toList = before ++ [(Text.dropReturn w).reverse] := by
  rw [String.toList_append]
  exact Text.exists_lines_lineFeed raw.toList

theorem ofText_lineFeed (raw : String) : ofText (raw ++ "\n") = ofText raw := by
  obtain ⟨before, w, hopen, hended⟩ := exists_lines_text raw
  rw [ofText, ofText, hended, hopen, flatMap_rowOf_lineFeed]

theorem ofSection_lineFeed (raw name : String) :
    ofSection (raw ++ "\n") name = ofSection raw name := by
  obtain ⟨before, w, hopen, hended⟩ := exists_lines_text raw
  rw [ofSection, ofSection, hended, hopen, ofText_lineFeed]
  simp only [any_header?_lineFeed, sectionRows_lineFeed]

/-- The rows of a text are not empty, and their words hold no blanks. A table of such rows is the
table of its own text, where the line feed at the end may be missing. Whether a line is a header
depends on its words alone, so the rows of a section, written anew under a header, are the same
section again, and its telemetry says the same. -/
theorem ofText_canonical (raw : String) :
    (∀ row ∈ ofText raw, row ≠ [] ∧
      ∀ word ∈ row, word ≠ "" ∧ ∀ c ∈ word.toList, Text.isBlank c = false) ∧
    (∀ table : Table, (∀ row ∈ table, row ≠ [] ∧
        ∀ word ∈ row, word ≠ "" ∧ ∀ c ∈ word.toList, Text.isBlank c = false) →
      ofText table.text = table) ∧
    (∀ text name : String, ofText (text ++ "\n") = ofText text ∧
      ofSection (text ++ "\n") name = ofSection text name) ∧
    (∀ line other, Text.fields other = Text.fields line →
      (header? other = none ↔ header? line = none)) ∧
    ofSection (sectionText ((ofSection raw smartSection).map Row.text)) smartSection =
      ofSection raw smartSection ∧
    parseOutput (sectionText ((ofSection raw smartSection).map Row.text)) = parseOutput raw := by
  have hsection := ofSection_sectionText_ofSection raw smartSection
  have hcanonical : ∀ table : Table, table.Canonical ↔ ∀ row ∈ table, row ≠ [] ∧
      ∀ word ∈ row, word ≠ "" ∧ ∀ c ∈ word.toList, Text.isBlank c = false := by
    intro table
    simp [Canonical, Row.OfWords, Text.IsWord]
  refine ⟨(hcanonical _).1 (canonical_ofText raw), fun table h => ofText_text ((hcanonical _).2 h),
    fun text name => ⟨ofText_lineFeed text, ofSection_lineFeed text name⟩,
    fun line other => header?_eq_none_congr, hsection, ?_⟩
  rw [parseOutput, hsection, parseOutput]

end Table

end Telemetry

end DiskHealth
