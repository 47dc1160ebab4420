import DiskHealth.Proofs.Numeral
import DiskHealth.Proofs.Text.Trim
import DiskHealth.Telemetry.Conversion

/-!
Which texts of telemetry are converted, and to what word: numerals in range, with or without blanks
around them. A hexadecimal numeral may begin with a mark, before its sign. The text of a word is one
word of a line, and is converted back. `Converts` says of a conversion what it gives for every text,
and `converts_numerals` that the two conversions are of that kind, each for its own numerals.
-/

namespace DiskHealth.Telemetry

open Numeral (Spells)

/-- A text spells an integer in hexadecimal digits, after a mark of such digits or without one. -/
def SpellsHex (cs : List Char) (n : Int) : Prop :=
  ∃ mark ∈ [[], ['0', 'x'], ['0', 'X']], ∃ digits, cs = mark ++ digits ∧ Spells 16 digits n

/-- The letter of a mark is no digit, so a mark is not read as a part of the numeral. -/
theorem spells_unmarked_iff {cs : List Char} {n : Int} :
    Spells 16 (unmarked cs) n ↔ SpellsHex cs n := by
  constructor
  · intro h
    unfold unmarked at h
    split at h
    · exact ⟨['0', 'x'], by simp, _, rfl, h⟩
    · exact ⟨['0', 'X'], by simp, _, rfl, h⟩
    · exact ⟨[], by simp, _, rfl, h⟩
  · rintro ⟨mark, hmark, digits, rfl, h⟩
    simp only [List.mem_cons, List.not_mem_nil, or_false] at hmark
    rcases hmark with rfl | rfl | rfl
    · have hread := Numeral.integer?_of_spells (by decide) h
      have hletter : ∀ rest, Numeral.integer? 16 ('0' :: 'x' :: rest) = none ∧
          Numeral.integer? 16 ('0' :: 'X' :: rest) = none := by
        simp [Numeral.integer?, Numeral.unsigned?, Numeral.natural?, Numeral.continue?,
          Numeral.digit?]
      rw [List.nil_append]
      unfold unmarked
      split
      · cases (hletter _).1.symm.trans hread
      · cases (hletter _).2.symm.trans hread
      · exact h
    · exact h
    · exact h

theorem parseInt_eq_ok_iff {field value : String} {w : Int64} :
    parseInt field value = .ok w ↔ Spells 10 (Text.trim value.toList) w.toInt := by
  rw [← Numeral.read?_eq_some_iff (by decide), ← decimal?, parseInt]
  cases decimal? value.toList <;> simp

theorem parseHex_eq_ok_iff {field value : String} {w : Int64} :
    parseHex field value = .ok w ↔ SpellsHex (Text.trim value.toList) w.toInt := by
  rw [← spells_unmarked_iff, ← Numeral.read?_eq_some_iff (by decide), ← hexadecimal?, parseHex]
  cases hexadecimal? value.toList <;> simp

theorem isBlank_of_mem_ofInt {n : Int} {c : Char} (h : c ∈ Numeral.ofInt n) :
    Text.isBlank c = false := by
  rcases Numeral.mem_ofInt h with rfl | hdigit
  · rfl
  · simp only [Char.isDigit, Bool.and_eq_true, decide_eq_true_eq, ge_iff_le,
      UInt32.le_iff_toNat_le] at hdigit
    have hlow : 48 ≤ c.toNat := hdigit.1
    have hhigh : c.toNat ≤ 57 := hdigit.2
    simp only [Text.isBlank]
    grind

theorem isWord_ofInt (n : Int) : Text.IsWord (Numeral.ofInt n) :=
  ⟨Numeral.ofInt_ne_nil n, fun _ hc => isBlank_of_mem_ofInt hc⟩

theorem isWord_ofWord (w : Int64) : Text.IsWord (Numeral.ofWord w).toList := by
  rw [Numeral.ofWord, String.toList_ofList]
  exact isWord_ofInt w.toInt

theorem decimal?_ofWord (w : Int64) : decimal? (Numeral.ofWord w).toList = some w := by
  unfold decimal?
  rw [Text.trim_of_noBlank (isWord_ofWord w).2, Numeral.ofWord, String.toList_ofList,
    Numeral.read?_ofInt]

/-! ### What a conversion gives for every text -/

/-- A text stands for an integer: apart from the blanks around it, it is a numeral of that integer,
which is in the range of words. -/
structure StandsFor (numeral : List Char → Int → Prop) (cs : List Char) (n : Int) : Prop where
  spelled : ∃ inner, Text.TrimsTo cs inner ∧ numeral inner n
  low : -2 ^ 63 ≤ n
  high : n < 2 ^ 63

/-- The result for a text is the integer that it stands for, or its one fault if it stands for
none. -/
structure Converts (numeral : List Char → Int → Prop) (cs : List Char) (fault : Fault)
    (result : Except Fault Int64) : Prop where
  ok_iff : ∀ n : Int, (∃ w, result = .ok w ∧ w.toInt = n) ↔ StandsFor numeral cs n
  error_iff : ∀ f, result = .error f ↔ f = fault ∧ ∀ n, ¬StandsFor numeral cs n

theorem converts_of_word {numeral : List Char → Int → Prop} {cs : List Char} {fault : Fault}
    {result : Except Fault Int64}
    (hok : ∀ w, result = .ok w ↔ numeral (Text.trim cs) w.toInt)
    (hfault : ∀ f, result = .error f → f = fault) : Converts numeral cs fault result := by
  have hvalue : ∀ n, (∃ w, result = .ok w ∧ w.toInt = n) ↔ StandsFor numeral cs n := by
    intro n
    constructor
    · rintro ⟨w, hw, rfl⟩
      exact ⟨⟨_, Text.trim_eq_iff.1 rfl, (hok w).1 hw⟩, Int64.le_toInt w, Int64.toInt_lt w⟩
    · rintro ⟨⟨inner, htrim, hinner⟩, hlow, hhigh⟩
      have hword : (Int64.ofInt n).toInt = n := Int64.toInt_ofInt_of_le hlow hhigh
      refine ⟨Int64.ofInt n, (hok _).2 ?_, hword⟩
      rwa [hword, Text.trim_eq_iff.2 htrim]
  refine ⟨hvalue, fun f => ?_⟩
  simp only [← hvalue]
  cases result with
  | ok w => simp
  | error g => simp [hfault g rfl, eq_comm]

theorem converts_parseInt (field value : String) :
    Converts (Spells 10) value.toList (.invalidInteger field value) (parseInt field value) := by
  refine converts_of_word (fun _ => parseInt_eq_ok_iff) fun f hf => ?_
  unfold parseInt at hf
  split at hf
  · cases hf
  · cases hf
    rfl

theorem converts_parseHex (field value : String) :
    Converts SpellsHex value.toList (.invalidHex field value) (parseHex field value) := by
  refine converts_of_word (fun _ => parseHex_eq_ok_iff) fun f hf => ?_
  unfold parseHex at hf
  split at hf
  · cases hf
  · cases hf
    rfl

theorem parseInt_between {before after : List Char} (field : String) (w : Int64)
    (hbefore : ∀ c ∈ before, Text.isBlank c = true) (hafter : ∀ c ∈ after, Text.isBlank c = true) :
    parseInt field (String.ofList (before ++ (Numeral.ofWord w).toList ++ after)) = .ok w := by
  rw [parseInt_eq_ok_iff, String.toList_ofList, Text.trim_between hbefore hafter,
    Text.trim_of_noBlank (isWord_ofWord w).2, Numeral.ofWord, String.toList_ofList]
  exact Numeral.spells_ofInt w.toInt

/-- A value is converted exactly if it is a numeral in the range of words, blanks around it apart,
and to the word that the numeral spells; any other value is a fault that names the field and shows
the value as it came. So the decimal text of every word is converted back, whatever blanks are
around it. -/
theorem converts_numerals (field value : String) :
    Converts (Spells 10) value.toList (.invalidInteger field value) (parseInt field value) ∧
    Converts SpellsHex value.toList (.invalidHex field value) (parseHex field value) ∧
    ∀ (w : Int64) (before after : List Char), (∀ c ∈ before, Text.isBlank c = true) →
      (∀ c ∈ after, Text.isBlank c = true) →
      parseInt field (String.ofList (before ++ (Numeral.ofWord w).toList ++ after)) = .ok w :=
  ⟨converts_parseInt field value, converts_parseHex field value,
    fun w _ _ hbefore hafter => parseInt_between field w hbefore hafter⟩

/-- The least word is converted back from between blanks of different kinds, and the integer below
it is not converted. -/
theorem converts_numerals_least :
    (∀ c ∈ ['\u3000', '\t'], Text.isBlank c = true) ∧ (∀ c ∈ ['\u00A0'], Text.isBlank c = true) ∧
      parseInt "Raw" "\u3000\t-9223372036854775808\u00A0" = .ok Int64.minValue ∧
      parseInt "Raw" " -9223372036854775809" =
        .error (.invalidInteger "Raw" " -9223372036854775809") := by
  have hbefore : ∀ c ∈ ['\u3000', '\t'], Text.isBlank c = true := by simp [Text.isBlank]
  have hafter : ∀ c ∈ ['\u00A0'], Text.isBlank c = true := by simp [Text.isBlank]
  have hread := (converts_numerals "Raw" "").2.2 Int64.minValue _ _ hbefore hafter
  have htext : String.ofList (['\u3000', '\t'] ++ (Numeral.ofWord Int64.minValue).toList ++
      ['\u00A0']) = "\u3000\t-9223372036854775808\u00A0" := by decide +kernel
  rw [htext] at hread
  exact ⟨hbefore, hafter, hread, by decide +kernel⟩

example : parseHex "Critical Warning" " 0x-00Ff " = .ok (-255) := by decide +kernel

end DiskHealth.Telemetry
