import DiskHealth.Text.Blank

/-!
Words and lines of written texts. `Spelled` says which texts have given words, each followed by a
blank or by the end, with blanks anywhere between them, and such a text gives its words back
(`words_of_spelled`), as every text has its own (`spelled_words`). Blanks at the ends of a text add
no word (`words_trim`), so the words of a line are the same with or without the carriage return that
its line feed takes along.
-/

namespace DiskHealth.Text

/-- A word: characters, none of them blank. -/
def IsWord (w : List Char) : Prop :=
  w ≠ [] ∧ ∀ c ∈ w, isBlank c = false

theorem isWord_iff {w : List Char} :
    (!w.isEmpty && w.all fun c => !isBlank c) = true ↔ IsWord w := by
  simp [IsWord]

instance (w : List Char) : Decidable (IsWord w) :=
  decidable_of_iff _ isWord_iff

/-- A text has some words in order, with blanks around them. -/
inductive Spelled : List (List Char) → List Char → Prop where
  | nil : Spelled [] []
  | blank {ws : List (List Char)} {c : Char} {cs : List Char} (hc : isBlank c = true)
    (h : Spelled ws cs) : Spelled ws (c :: cs)
  | word {ws : List (List Char)} {w cs : List Char} (hw : IsWord w)
    (hend : ∀ c ∈ cs.head?, isBlank c = true) (h : Spelled ws cs) : Spelled (w :: ws) (w ++ cs)

theorem wordsFrom_append {w : List Char} (hw : ∀ c ∈ w, isBlank c = false)
    (current cs : List Char) :
    wordsFrom current (w ++ cs) = wordsFrom (w.reverse ++ current) cs := by
  induction w generalizing current with
  | nil => rfl
  | cons c rest ih =>
    have hc := hw c List.mem_cons_self
    rw [List.cons_append, wordsFrom, if_neg (by simp [hc]),
      ih fun d hd => hw d (List.mem_cons_of_mem _ hd)]
    simp

theorem words_blank {c : Char} (hc : isBlank c = true) (cs : List Char) :
    words (c :: cs) = words cs := by
  unfold words
  rw [wordsFrom, if_pos hc]
  rfl

/-- An unfinished word ends where a blank or nothing follows. -/
theorem wordsFrom_of_end {cs : List Char} (hend : ∀ c ∈ cs.head?, isBlank c = true)
    (current : List Char) : wordsFrom current cs = flush current ++ words cs := by
  cases cs with
  | nil => simp [wordsFrom, words, flush]
  | cons c rest => rw [words_blank (hend c rfl), wordsFrom, if_pos (hend c rfl), words]

theorem words_word {w cs : List Char} (hw : IsWord w) (hend : ∀ c ∈ cs.head?, isBlank c = true) :
    words (w ++ cs) = w :: words cs := by
  have hflush : flush w.reverse = [w] := by simp [flush, hw.1]
  rw [words, wordsFrom_append hw.2, List.append_nil, wordsFrom_of_end hend, hflush]
  rfl

theorem words_of_isWord {w : List Char} (hw : IsWord w) : words w = [w] := by
  have hone := words_word hw (by simp : ∀ c ∈ [].head?, isBlank c = true)
  rwa [List.append_nil] at hone

theorem words_of_spelled {ws : List (List Char)} {cs : List Char} (h : Spelled ws cs) :
    words cs = ws := by
  induction h with
  | nil => rfl
  | blank hc _ ih => rw [words_blank hc, ih]
  | word hw hend _ ih => rw [words_word hw hend, ih]

theorem Spelled.isWord {ws : List (List Char)} {cs w : List Char} (h : Spelled ws cs)
    (hw : w ∈ ws) : IsWord w := by
  rw [← words_of_spelled h] at hw
  exact ⟨words_ne_nil hw, fun c hc => isBlank_of_mem_words hw hc⟩

/-- An unfinished word is one of the words, if there is something of it. -/
theorem Spelled.flush {ws : List (List Char)} {cs current : List Char} (h : Spelled ws cs)
    (hend : ∀ c ∈ cs.head?, isBlank c = true) (hcurrent : ∀ c ∈ current, isBlank c = false) :
    Spelled (flush current ++ ws) (current.reverse ++ cs) := by
  cases current with
  | nil => exact h
  | cons c rest =>
    have hw : IsWord (c :: rest).reverse :=
      ⟨by simp, fun d hd => hcurrent d (List.mem_reverse.1 hd)⟩
    exact .word hw hend h

/-- Every text has its words, with blanks around them. -/
theorem spelled_words (cs : List Char) : Spelled (words cs) cs := by
  have hrun : ∀ current : List Char, (∀ c ∈ current, isBlank c = false) →
      Spelled (wordsFrom current cs) (current.reverse ++ cs) := by
    induction cs with
    | nil =>
      intro current hcurrent
      have hflush := Spelled.nil.flush (by simp) hcurrent
      rwa [List.append_nil] at hflush
    | cons c rest ih =>
      intro current hcurrent
      cases hc : isBlank c with
      | true =>
        rw [wordsFrom, if_pos hc]
        exact (Spelled.blank hc (ih [] (by simp))).flush (by simpa using hc) hcurrent
      | false =>
        have hnext := ih (c :: current) (by simpa [hc] using hcurrent)
        rw [wordsFrom, if_neg (by simp [hc])]
        simpa using hnext
  exact hrun [] (by simp)

theorem words_eq_iff {cs : List Char} {ws : List (List Char)} : words cs = ws ↔ Spelled ws cs :=
  ⟨fun h => h ▸ spelled_words cs, words_of_spelled⟩

/-- Words with single spaces between them. -/
theorem spelled_intercalate {ws : List (List Char)} (h : ∀ w ∈ ws, IsWord w) :
    Spelled ws ([' '].intercalate ws) := by
  induction ws with
  | nil => exact .nil
  | cons w rest ih =>
    have hw := h w List.mem_cons_self
    have hrest := ih fun x hx => h x (List.mem_cons_of_mem _ hx)
    cases rest with
    | nil =>
      have hone : Spelled [w] (w ++ []) := .word hw (by simp) .nil
      simpa using hone
    | cons next rest =>
      rw [List.intercalate_cons_cons, List.append_assoc]
      exact .word hw (by simp [isBlank]) (.blank rfl hrest)

theorem newline_notMem_intercalate {ws : List (List Char)} (h : ∀ w ∈ ws, IsWord w) :
    '\n' ∉ [' '].intercalate ws := by
  induction ws with
  | nil => simp
  | cons w rest ih =>
    have hw : '\n' ∉ w := fun hmem => nomatch ((h w List.mem_cons_self).2 _ hmem)
    have hrest := ih fun x hx => h x (List.mem_cons_of_mem _ hx)
    cases rest with
    | nil => simpa using hw
    | cons next rest => simpa [List.intercalate_cons_cons, hw] using hrest

/-! ### Blanks at the ends -/

theorem words_concat_blank {c : Char} (hc : isBlank c = true) (cs : List Char) :
    words (cs ++ [c]) = words cs := by
  have hrun : ∀ current, wordsFrom current (cs ++ [c]) = wordsFrom current cs := by
    induction cs with
    | nil =>
      intro current
      simp [wordsFrom, hc, flush]
    | cons d rest ih =>
      intro current
      rw [List.cons_append, wordsFrom, wordsFrom, ih, ih]
  exact hrun []

theorem words_trimStart (cs : List Char) : words (trimStart cs) = words cs := by
  unfold trimStart
  induction cs with
  | nil => rfl
  | cons c rest ih =>
    cases hc : isBlank c with
    | true => rw [List.dropWhile_cons_of_pos hc, ih, words_blank hc]
    | false => rw [List.dropWhile_cons_of_neg (by simp [hc])]

theorem words_trimEnd (cs : List Char) : words (trimEnd cs) = words cs := by
  have hrun : ∀ l : List Char, words (l.dropWhile isBlank).reverse = words l.reverse := by
    intro l
    induction l with
    | nil => rfl
    | cons c rest ih =>
      cases hc : isBlank c with
      | true => rw [List.dropWhile_cons_of_pos hc, ih, List.reverse_cons, words_concat_blank hc]
      | false => rw [List.dropWhile_cons_of_neg (by simp [hc])]
  rw [trimEnd, hrun, List.reverse_reverse]

theorem words_trim (cs : List Char) : words (trim cs) = words cs := by
  rw [trim, words_trimEnd, words_trimStart]

theorem dropWhile_of_noBlank {cs : List Char} (h : ∀ c ∈ cs, isBlank c = false) :
    cs.dropWhile isBlank = cs := by
  cases cs with
  | nil => rfl
  | cons c rest => exact List.dropWhile_cons_of_neg (by simp [h c List.mem_cons_self])

theorem trimEnd_of_noBlank {cs : List Char} (h : ∀ c ∈ cs, isBlank c = false) :
    trimEnd cs = cs := by
  rw [trimEnd, dropWhile_of_noBlank fun c hc => h c (List.mem_reverse.1 hc), List.reverse_reverse]

theorem trim_of_noBlank {cs : List Char} (h : ∀ c ∈ cs, isBlank c = false) : trim cs = cs := by
  rw [trim, trimStart, dropWhile_of_noBlank h, trimEnd_of_noBlank h]

/-- Blanks at the end are blanks of the second part, unless it has nothing else. -/
theorem trimEnd_append (before after : List Char) :
    trimEnd (before ++ after) =
      if trimEnd after = [] then trimEnd before else before ++ trimEnd after := by
  unfold trimEnd
  rw [List.reverse_append, List.dropWhile_append]
  by_cases h : after.reverse.dropWhile isBlank = []
  · simp [h]
  · simp [h]

theorem mem_of_mem_trim {c : Char} {cs : List Char} (h : c ∈ trim cs) : c ∈ cs := by
  have hdrop : ∀ {l : List Char}, c ∈ l.dropWhile isBlank → c ∈ l :=
    fun hc => (List.dropWhile_suffix isBlank).subset hc
  exact hdrop (List.mem_reverse.1 (hdrop (List.mem_reverse.1 h)))

/-- What is joined holds what the pieces hold, and the separator. -/
theorem mem_intercalate {c : Char} {separator : List Char} {pieces : List (List Char)}
    (h : c ∈ separator.intercalate pieces) : c ∈ separator ∨ ∃ piece ∈ pieces, c ∈ piece := by
  induction pieces with
  | nil => simp at h
  | cons piece rest ih =>
    cases rest with
    | nil => exact .inr ⟨piece, List.mem_cons_self, by simpa using h⟩
    | cons next rest =>
      rw [List.intercalate_cons_cons, List.append_assoc, List.mem_append, List.mem_append] at h
      rcases h with h | h | h
      · exact .inr ⟨piece, List.mem_cons_self, h⟩
      · exact .inl h
      · exact (ih h).imp_right fun ⟨other, hother, hc⟩ =>
          ⟨other, List.mem_cons_of_mem _ hother, hc⟩

/-! ### Characters taken out -/

/-- Blanks that stand before what is left out are trimmed before it is left out or after that. -/
theorem trimStart_filter_trimStart (p : Char → Bool) (cs : List Char) :
    trimStart ((trimStart cs).filter p) = trimStart (cs.filter p) := by
  unfold trimStart
  induction cs with
  | nil => rfl
  | cons c rest ih =>
    cases hc : isBlank c with
    | false => rw [List.dropWhile_cons_of_neg (by simp [hc])]
    | true =>
      rw [List.dropWhile_cons_of_pos hc, ih]
      cases hp : p c with
      | false => rw [List.filter_cons_of_neg (by simp [hp])]
      | true => rw [List.filter_cons_of_pos hp, List.dropWhile_cons_of_pos hc]

theorem trimEnd_filter_trimEnd (p : Char → Bool) (cs : List Char) :
    trimEnd ((trimEnd cs).filter p) = trimEnd (cs.filter p) := by
  have hback : ∀ ds, trimEnd ds = (trimStart ds.reverse).reverse := fun _ => rfl
  have h := congrArg List.reverse (trimStart_filter_trimStart p cs.reverse)
  simpa only [hback, ← List.filter_reverse, List.reverse_reverse] using h

theorem trimStart_trimEnd (cs : List Char) : trimStart (trimEnd cs) = trimEnd (trimStart cs) := by
  induction cs with
  | nil => rfl
  | cons c rest ih =>
    have hend := trimEnd_append [c] rest
    rw [List.singleton_append] at hend
    cases hc : isBlank c with
    | true =>
      have hstart : ∀ ds, trimStart (c :: ds) = trimStart ds :=
        fun ds => List.dropWhile_cons_of_pos hc
      rw [hstart, ← ih, hend]
      split
      · rename_i hnil
        rw [hnil]
        simp [trimEnd, trimStart, hc]
      · exact hstart (trimEnd rest)
    | false =>
      have hstart : ∀ ds, trimStart (c :: ds) = c :: ds :=
        fun ds => List.dropWhile_cons_of_neg (by simp [hc])
      rw [hstart, hend]
      split
      · simp [trimEnd, trimStart, hc]
      · exact hstart (trimEnd rest)

theorem trim_filter_trim (p : Char → Bool) (cs : List Char) :
    trim ((trim cs).filter p) = trim (cs.filter p) :=
  calc trimEnd (trimStart ((trimEnd (trimStart cs)).filter p))
      = trimStart (trimEnd ((trimEnd (trimStart cs)).filter p)) := (trimStart_trimEnd _).symm
    _ = trimStart (trimEnd ((trimStart cs).filter p)) := by rw [trimEnd_filter_trimEnd]
    _ = trimEnd (trimStart ((trimStart cs).filter p)) := trimStart_trimEnd _
    _ = trimEnd (trimStart (cs.filter p)) := by rw [trimStart_filter_trimStart]

/-! ### The first and the last word -/

theorem exists_wordsFrom {current : List Char} (h : current ≠ []) (cs : List Char) :
    ∃ w ws, wordsFrom current cs = (current.reverse ++ w) :: ws := by
  induction cs generalizing current with
  | nil => exact ⟨[], [], by simp [wordsFrom, flush, h]⟩
  | cons c rest ih =>
    cases hc : isBlank c with
    | true => exact ⟨[], words rest, by simp [wordsFrom, hc, flush, h, words]⟩
    | false =>
      obtain ⟨w, ws, hwords⟩ := ih (List.cons_ne_nil c current)
      refine ⟨c :: w, ws, ?_⟩
      rw [wordsFrom, if_neg (by simp [hc]), hwords]
      simp

/-- The first word goes on from what a text begins with, unless that holds a blank. -/
theorem head?_words_append {start : List Char} (h : IsWord start) (cs : List Char) :
    ∃ w, (words (start ++ cs)).head? = some (start ++ w) := by
  have hne : start.reverse ≠ [] := by simpa using h.1
  obtain ⟨w, ws, hwords⟩ := exists_wordsFrom hne cs
  refine ⟨w, ?_⟩
  rw [words, wordsFrom_append h.2, List.append_nil, hwords, List.reverse_reverse]
  rfl

/-- The last word ends with what a text ends with, unless that holds a blank. -/
theorem getLast?_words_append {ending : List Char} (h : IsWord ending) (cs : List Char) :
    ∃ w, (words (cs ++ ending)).getLast? = some (w ++ ending) := by
  have hrun : ∀ current, ∃ w, (wordsFrom current (cs ++ ending)).getLast? = some (w ++ ending) := by
    induction cs with
    | nil =>
      intro current
      have hone := wordsFrom_append h.2 current []
      rw [List.append_nil] at hone
      refine ⟨current.reverse, ?_⟩
      rw [List.nil_append, hone]
      simp [wordsFrom, flush, h.1]
    | cons c rest ih =>
      intro current
      cases hc : isBlank c with
      | true =>
        obtain ⟨w, hw⟩ := ih []
        refine ⟨w, ?_⟩
        rw [List.cons_append, wordsFrom, if_pos hc, List.getLast?_append, hw]
        rfl
      | false =>
        obtain ⟨w, hw⟩ := ih (c :: current)
        refine ⟨w, ?_⟩
        rw [List.cons_append, wordsFrom, if_neg (by simp [hc]), hw]
  exact hrun []

/-- A text begins with its first word, blanks apart. -/
theorem prefix_trim_of_head? {w cs : List Char} (h : w ∈ (words cs).head?) : w <+: trim cs := by
  have hspelled := spelled_words cs
  have hstart : ∃ rest, trimStart cs = w ++ rest := by
    generalize words cs = ws at h hspelled
    induction hspelled with
    | nil => cases h
    | blank hc _ ih =>
      rw [trimStart, List.dropWhile_cons_of_pos hc]
      exact ih h
    | @word ws v cs hv _ _ _ =>
      cases h
      obtain ⟨c, rest, rfl⟩ := List.exists_cons_of_ne_nil hv.1
      have hc := hv.2 c List.mem_cons_self
      exact ⟨cs, List.dropWhile_cons_of_neg (by simp [hc])⟩
  obtain ⟨rest, hrest⟩ := hstart
  have hw : IsWord w := hspelled.isWord (List.mem_of_mem_head? h)
  rw [trim, hrest, trimEnd_append]
  split
  · have hkeep := trimEnd_of_noBlank hw.2
    exact hkeep.symm ▸ List.prefix_rfl
  · exact List.prefix_append _ _

theorem Spelled.trimEnd_eq_nil {cs : List Char} (h : Spelled [] cs) : trimEnd cs = [] := by
  generalize hws : ([] : List (List Char)) = ws at h
  induction h with
  | nil => rfl
  | @blank ws c cs hc _ ih =>
    show trimEnd ([c] ++ cs) = []
    rw [trimEnd_append, if_pos (ih hws)]
    simp [trimEnd, hc]
  | word => cases hws

theorem suffix_trimEnd_append {w after : List Char} (hw : IsWord w) (h : w <:+ trimEnd after)
    (before : List Char) : w <:+ trimEnd (before ++ after) := by
  have hne : trimEnd after ≠ [] := by
    intro hnil
    rw [hnil, List.suffix_nil] at h
    exact hw.1 h
  rw [trimEnd_append, if_neg hne]
  exact h.trans (List.suffix_append _ _)

theorem Spelled.suffix_trimEnd {ws : List (List Char)} {w cs : List Char} (hs : Spelled ws cs)
    (h : w ∈ ws.getLast?) : w <:+ trimEnd cs := by
  induction hs with
  | nil => cases h
  | @blank ws c cs _ hs ih =>
    have hw := hs.isWord (List.mem_of_mem_getLast? h)
    exact suffix_trimEnd_append hw (ih h) [c]
  | @word ws v cs hv _ hs ih =>
    cases ws with
    | nil =>
      cases h
      rw [trimEnd_append, if_pos hs.trimEnd_eq_nil, trimEnd_of_noBlank hv.2]
      exact List.suffix_rfl
    | cons next ws =>
      have hlast : w ∈ (next :: ws).getLast? := by simpa using h
      have hw := hs.isWord (List.mem_of_mem_getLast? hlast)
      exact suffix_trimEnd_append hw (ih hlast) v

/-- A text ends with its last word, blanks apart. -/
theorem suffix_trim_of_getLast? {w cs : List Char} (h : w ∈ (words cs).getLast?) :
    w <:+ trim cs := by
  rw [← words_trimStart] at h
  exact (spelled_words (trimStart cs)).suffix_trimEnd h

/-! ### Lines -/

theorem linesFrom_append {line : List Char} (h : '\n' ∉ line) (current rest : List Char) :
    linesFrom current (line ++ '\n' :: rest) =
      (dropReturn (line.reverse ++ current)).reverse :: lines rest := by
  induction line generalizing current with
  | nil => rfl
  | cons c tail ih =>
    have hc : c ≠ '\n' := fun heq => h (heq ▸ List.mem_cons_self)
    rw [List.cons_append, linesFrom, if_neg hc, ih fun hmem => h (List.mem_cons_of_mem _ hmem)]
    simp

theorem words_dropReturn (w : List Char) : words (dropReturn w).reverse = words w.reverse := by
  unfold dropReturn
  split
  · rw [List.reverse_cons, words_concat_blank (by decide)]
  · rfl

/-- A line that a line feed ends has the words of the text before the line feed. -/
theorem exists_lines_append {line : List Char} (h : '\n' ∉ line) (rest : List Char) :
    ∃ found, lines (line ++ '\n' :: rest) = found :: lines rest ∧ words found = words line := by
  refine ⟨(dropReturn line.reverse).reverse, ?_, ?_⟩
  · rw [lines, linesFrom_append h, List.append_nil]
  · rw [words_dropReturn, List.reverse_reverse]

/-- A line feed at the end of a text ends the last line, or adds an empty one. -/
theorem exists_lines_lineFeed (cs : List Char) :
    ∃ before w, lines cs = before ++ flush w ∧
      lines (cs ++ ['\n']) = before ++ [(dropReturn w).reverse] := by
  have hrun : ∀ current, ∃ before w, linesFrom current cs = before ++ flush w ∧
      linesFrom current (cs ++ ['\n']) = before ++ [(dropReturn w).reverse] := by
    induction cs with
    | nil =>
      intro current
      exact ⟨[], current, by simp [linesFrom], by simp [linesFrom, flush]⟩
    | cons c rest ih =>
      intro current
      by_cases hc : c = '\n'
      · obtain ⟨before, w, hopen, hended⟩ := ih []
        refine ⟨(dropReturn current).reverse :: before, w, ?_, ?_⟩
        · rw [linesFrom, if_pos hc, hopen, List.cons_append]
        · rw [List.cons_append, linesFrom, if_pos hc, hended, List.cons_append]
      · obtain ⟨before, w, hopen, hended⟩ := ih (c :: current)
        refine ⟨before, w, ?_, ?_⟩
        · rw [linesFrom, if_neg hc, hopen]
        · rw [List.cons_append, linesFrom, if_neg hc, hended]
  exact hrun []

end DiskHealth.Text
