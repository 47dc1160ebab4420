/-!
Blank characters, and the cutting of text at them: `trim` takes blanks from both ends, `words`
gives the runs between blanks, `lines` the pieces between line feeds. A word is never empty and
holds no blank (`words_ne_nil`, `isBlank_of_mem_words`).
-/

namespace DiskHealth.Text

/-- The characters with the Unicode property White_Space. -/
def isBlank (c : Char) : Bool :=
  (0x09 ≤ c.toNat && c.toNat ≤ 0x0D) || c.toNat == 0x20 || c.toNat == 0x85 || c.toNat == 0xA0 ||
    c.toNat == 0x1680 || (0x2000 ≤ c.toNat && c.toNat ≤ 0x200A) || c.toNat == 0x2028 ||
    c.toNat == 0x2029 || c.toNat == 0x202F || c.toNat == 0x205F || c.toNat == 0x3000

/-- A text without the blanks it begins with. -/
def trimStart (cs : List Char) : List Char :=
  cs.dropWhile isBlank

/-- A text without the blanks it ends with. -/
def trimEnd (cs : List Char) : List Char :=
  (cs.reverse.dropWhile isBlank).reverse

/-- A text without the blanks at its two ends. -/
def trim (cs : List Char) : List Char :=
  trimEnd (trimStart cs)

/-- The piece spelled backwards in `current`, unless no character of it was met. -/
def flush (current : List Char) : List (List Char) :=
  if current.isEmpty then [] else [current.reverse]

/-- The words of a text that follows the characters `current` of an unfinished word, last first. -/
def wordsFrom (current : List Char) : List Char → List (List Char)
  | [] => flush current
  | c :: rest =>
    if isBlank c then flush current ++ wordsFrom [] rest else wordsFrom (c :: current) rest

/-- The maximal runs of characters that are not blank, in order. -/
def words (cs : List Char) : List (List Char) :=
  wordsFrom [] cs

/-- A line spelled backwards, without the carriage return before its line feed. -/
def dropReturn : List Char → List Char
  | '\r' :: rest => rest
  | cs => cs

/-- The lines of a text that follows the characters `current` of an unfinished line, last first. -/
def linesFrom (current : List Char) : List Char → List (List Char)
  | [] => flush current
  | c :: rest =>
    if c = '\n' then (dropReturn current).reverse :: linesFrom [] rest
    else linesFrom (c :: current) rest

/-- The lines of a text. A line ends with a line feed, before which one carriage return is dropped;
a last line without line feed is kept as it is, and an empty one is no line. -/
def lines (cs : List Char) : List (List Char) :=
  linesFrom [] cs

/-- The words of a text, as strings. -/
def fields (cs : List Char) : List String :=
  (words cs).map String.ofList

/-- The text up to the first `mark` and the text after it. -/
def splitAtFirst? (mark : Char) : List Char → Option (List Char × List Char)
  | [] => none
  | c :: rest =>
    if c = mark then some ([], rest)
    else (splitAtFirst? mark rest).map fun parts => (c :: parts.1, parts.2)

/-- The rest of a text after `start`, if the text begins with it. -/
def stripStart? : List Char → List Char → Option (List Char)
  | [], cs => some cs
  | _ :: _, [] => none
  | s :: start, c :: cs => if s = c then stripStart? start cs else none

/-- The text before `ending`, if the text ends with it. -/
def stripEnd? (ending cs : List Char) : Option (List Char) :=
  (stripStart? ending.reverse cs.reverse).map List.reverse

/-- Whether `part` occurs in a text. -/
def occurs (part : List Char) : List Char → Bool
  | [] => part.isEmpty
  | c :: rest => (stripStart? part (c :: rest)).isSome || occurs part rest

theorem mem_flush {current w : List Char} (h : w ∈ flush current) :
    current ≠ [] ∧ w = current.reverse := by
  unfold flush at h
  split at h
  · simp at h
  · rename_i hne
    exact ⟨by simpa using hne, by simpa using h⟩

theorem mem_wordsFrom {current cs w : List Char} (hc : ∀ c ∈ current, isBlank c = false)
    (h : w ∈ wordsFrom current cs) : w ≠ [] ∧ ∀ c ∈ w, isBlank c = false := by
  induction cs generalizing current with
  | nil =>
    obtain ⟨hne, rfl⟩ := mem_flush h
    exact ⟨by simpa using hne, by simpa using hc⟩
  | cons c rest ih =>
    unfold wordsFrom at h
    split at h
    · rcases List.mem_append.1 h with h | h
      · obtain ⟨hne, rfl⟩ := mem_flush h
        exact ⟨by simpa using hne, by simpa using hc⟩
      · exact ih (by simp) h
    · rename_i hb
      refine ih ?_ h
      intro d hd
      rcases List.mem_cons.1 hd with rfl | hd
      · simpa using hb
      · exact hc d hd

/-- A word is not empty. -/
theorem words_ne_nil {cs w : List Char} (h : w ∈ words cs) : w ≠ [] :=
  (mem_wordsFrom (by simp) h).1

/-- A word holds no blank. -/
theorem isBlank_of_mem_words {cs w : List Char} (h : w ∈ words cs) {c : Char} (hc : c ∈ w) :
    isBlank c = false :=
  (mem_wordsFrom (by simp) h).2 c hc

theorem stripStart?_eq_some_iff {start cs rest : List Char} :
    stripStart? start cs = some rest ↔ cs = start ++ rest := by
  induction start generalizing cs with
  | nil => simp [stripStart?]
  | cons s start ih =>
    cases cs with
    | nil => simp [stripStart?]
    | cons c cs =>
      by_cases h : s = c
      · simp [stripStart?, h, ih]
      · simp [stripStart?, h, Ne.symm h]

theorem splitAtFirst?_eq_some_iff {mark : Char} {cs before after : List Char} :
    splitAtFirst? mark cs = some (before, after) ↔
      mark ∉ before ∧ cs = before ++ mark :: after := by
  induction cs generalizing before with
  | nil => simp [splitAtFirst?]
  | cons c cs ih =>
    by_cases h : c = mark
    · cases before with
      | nil => simp [splitAtFirst?, h]
      | cons b before => simp [splitAtFirst?, h]; grind
    · cases before with
      | nil => simp [splitAtFirst?, h]
      | cons b before =>
        simp only [splitAtFirst?, h, if_false, Option.map_eq_some_iff]
        constructor
        · rintro ⟨⟨x, y⟩, hx, heq⟩
          simp only [Prod.mk.injEq, List.cons.injEq] at heq
          obtain ⟨⟨rfl, rfl⟩, rfl⟩ := heq
          have := ih.1 hx
          simp [this.1, this.2, Ne.symm h]
        · intro ⟨hm, heq⟩
          simp only [List.cons_append, List.cons.injEq] at heq
          simp only [List.mem_cons, not_or] at hm
          exact ⟨(before, after), ih.2 ⟨hm.2, heq.2⟩, by simp [heq.1]⟩

end DiskHealth.Text
