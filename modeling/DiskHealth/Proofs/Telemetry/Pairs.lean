import DiskHealth.Proofs.Telemetry.Conversion
import DiskHealth.Proofs.Text.Words
import DiskHealth.Telemetry.KeyValue

/-!
The pair of a key/value line. `Value` says which word a field's value is, once its marks are taken
out; `convert` finds that word or no word (`convert_eq_ok_iff`). A value is trimmed before its marks
are taken out, which makes no difference (`parsePair_of_colon`), so marks after the colon never
matter.
-/

namespace DiskHealth.Telemetry.KeyValue

open Numeral (Spells)

/-- The field that the text before a colon names. -/
def fieldOf (before : List Char) : String :=
  String.ofList (Text.trim before)

/-- The key that the text before a colon gives. -/
def keyOf (field : List Char) : String :=
  String.ofList ((Text.trim field).map fun c => if c = ' ' then '_' else c)

/-- A text without the marks in it. -/
def bare (cs : List Char) : List Char :=
  cs.filter fun c => !isMark c

/-- The fields whose values count data units. -/
def CountsDataUnits (field : String) : Prop :=
  field = "Data Units Read" ∨ field = "Data Units Written"

instance (field : String) : Decidable (CountsDataUnits field) :=
  inferInstanceAs (Decidable (_ ∨ _))

/-- A word is the bytes of some data units, or the end of the range of words closest to them. -/
def IsBytesOf (w units : Int64) : Prop :=
  w.toInt = max (-0x8000000000000000) (min (units.toInt * 512000) 0x7FFFFFFFFFFFFFFF)

/-- A text without marks stands for a word, as the value of a field. -/
inductive Value (field : String) (text : List Char) (w : Int64) : Prop where
  | temperature {token : List Char} {rest : List (List Char)} (hfield : field = "Temperature")
    (hfirst : Text.Spelled (token :: rest) text) (h : Spells 10 token w.toInt)
  | criticalWarning (hfield : field = "Critical Warning") (h : SpellsHex (Text.trim text) w.toInt)
  | dataUnits {token : List Char} {rest : List (List Char)} {units : Int64}
    (hfield : CountsDataUnits field) (hfirst : Text.Spelled (token :: rest) text)
    (h : Spells 10 token units.toInt) (hbytes : IsBytesOf w units)
  | other (hfield : field ≠ "Temperature" ∧ field ≠ "Critical Warning" ∧ ¬CountsDataUnits field)
    (h : Spells 10 (Text.trim text) w.toInt)

theorem clamp_eq_iff {w units : Int64} :
    Numeral.clamp (units.toInt * dataUnitBytes) = w ↔ IsBytesOf w units := by
  rw [← Int64.toInt_inj, Numeral.toInt_clamp, eq_comm]
  exact Iff.rfl

theorem parseInt_firstWord_eq_ok_iff {key : String} {text : List Char} {w : Int64} :
    parseInt key (String.ofList (firstWord text)) = .ok w ↔
      ∃ token rest, Text.Spelled (token :: rest) text ∧ Spells 10 token w.toInt := by
  rw [parseInt_eq_ok_iff, String.toList_ofList]
  simp only [← Text.words_eq_iff, firstWord]
  cases hwords : Text.words text with
  | nil =>
    have hnone : ¬Spells 10 [] w.toInt := fun h => h.ne_nil rfl
    simpa [Text.trim, Text.trimEnd, Text.trimStart] using hnone
  | cons token rest =>
    have hword : ∀ c ∈ token, Text.isBlank c = false := fun c hc =>
      Text.isBlank_of_mem_words (hwords ▸ List.mem_cons_self) hc
    rw [List.headD_cons, Text.trim_of_noBlank hword]
    constructor
    · exact fun h => ⟨token, rest, rfl, h⟩
    · rintro ⟨_, _, heq, h⟩
      cases heq
      exact h

theorem convert_eq_ok_iff {field : String} (key : String) {text : List Char} {w : Int64} :
    convert field key text = .ok w ↔ Value field text w := by
  unfold convert
  split
  · rename_i htemperature
    rw [parseInt_firstWord_eq_ok_iff]
    constructor
    · rintro ⟨token, rest, hfirst, h⟩
      exact .temperature htemperature hfirst h
    · rintro (⟨_, hfirst, h⟩ | hfield | hfield | hfield)
      · exact ⟨_, _, hfirst, h⟩
      · exact absurd (htemperature.symm.trans hfield) (by decide)
      · exact absurd hfield (htemperature ▸ by decide)
      · exact absurd htemperature hfield.1
  split
  · rename_i _ hwarning
    rw [parseHex_eq_ok_iff, String.toList_ofList]
    constructor
    · exact .criticalWarning hwarning
    · rintro (hfield | ⟨_, h⟩ | hfield | hfield)
      · exact absurd (hwarning.symm.trans hfield) (by decide)
      · exact h
      · exact absurd hfield (hwarning ▸ by decide)
      · exact absurd hwarning hfield.2.1
  split
  · rename_i htemperature hwarning hunits
    have hmap : ∀ r : Except Fault Int64,
        r.map (fun units => Numeral.clamp (units.toInt * dataUnitBytes)) = .ok w ↔
          ∃ units, r = .ok units ∧ IsBytesOf w units := by
      intro r
      cases r <;> simp [Except.map, clamp_eq_iff]
    simp only [hmap, parseInt_firstWord_eq_ok_iff]
    constructor
    · rintro ⟨units, ⟨token, rest, hfirst, h⟩, hbytes⟩
      exact .dataUnits hunits hfirst h hbytes
    · rintro (hfield | hfield | ⟨_, hfirst, h, hbytes⟩ | hfield)
      · exact absurd hfield htemperature
      · exact absurd hfield hwarning
      · exact ⟨_, ⟨_, _, hfirst, h⟩, hbytes⟩
      · exact absurd hunits hfield.2.2
  · rename_i htemperature hwarning hunits
    rw [parseInt_eq_ok_iff, String.toList_ofList]
    constructor
    · exact .other ⟨htemperature, hwarning, hunits⟩
    · rintro (hfield | hfield | hfield | ⟨_, h⟩)
      · exact absurd hfield htemperature
      · exact absurd hfield hwarning
      · exact absurd hfield hunits
      · exact h

/-- A word is the value of a field, or zero because no word is. -/
def ValueOrZero (field : String) (text : List Char) (w : Int64) : Prop :=
  Value field text w ∨ (∀ u, ¬Value field text u) ∧ w = 0

theorem orZero_convert_eq_iff {field : String} (key : String) {text : List Char} {w : Int64} :
    orZero (convert field key text) = w ↔ ValueOrZero field text w := by
  unfold ValueOrZero
  simp only [← convert_eq_ok_iff key]
  cases convert field key text with
  | ok u => simp [orZero]
  | error fault => simp [orZero, eq_comm]

/-- The value of a field does not depend on blanks at the ends of its text. -/
theorem Value.of_trim_eq {field : String} {text text' : List Char} {w : Int64}
    (h : Value field text w) (htrim : Text.trim text = Text.trim text') :
    Value field text' w := by
  have hspelled : ∀ ws, Text.Spelled ws text → Text.Spelled ws text' := by
    intro ws hws
    rw [← Text.words_eq_iff] at hws ⊢
    rw [← hws, ← Text.words_trim, ← htrim, Text.words_trim]
  cases h with
  | temperature hfield hfirst h => exact .temperature hfield (hspelled _ hfirst) h
  | criticalWarning hfield h => exact .criticalWarning hfield (htrim ▸ h)
  | dataUnits hfield hfirst h hbytes => exact .dataUnits hfield (hspelled _ hfirst) h hbytes
  | other hfield h => exact .other hfield (htrim ▸ h)

theorem valueOrZero_iff_of_trim_eq {field : String} {text text' : List Char} {w : Int64}
    (htrim : Text.trim text = Text.trim text') :
    ValueOrZero field text w ↔ ValueOrZero field text' w := by
  have hvalue : ∀ u, Value field text u ↔ Value field text' u :=
    fun u => ⟨fun h => h.of_trim_eq htrim, fun h => h.of_trim_eq htrim.symm⟩
  simp only [ValueOrZero, hvalue]

theorem parsePair_eq_error_iff {line : String} {fault : Fault} :
    parsePair line = .error fault ↔ ':' ∉ line.toList ∧ fault = .missingSeparator line := by
  unfold parsePair
  cases hsplit : Text.splitAtFirst? ':' line.toList with
  | none =>
    have hcolon : ':' ∉ line.toList := by
      intro hmem
      obtain ⟨before, after, hline, hbefore⟩ := List.eq_append_cons_of_mem hmem
      rw [Text.splitAtFirst?_eq_some_iff.2 ⟨hbefore, hline⟩] at hsplit
      cases hsplit
    simp [hcolon, eq_comm]
  | some parts =>
    have hline := (Text.splitAtFirst?_eq_some_iff.1 hsplit).2
    simp [hline]

section

variable {line : String} {before after : List Char}

/-- A line with a colon gives its key and one word, which is the value of its field or zero. -/
theorem parsePair_of_colon (hbefore : ':' ∉ before) (hline : line.toList = before ++ ':' :: after) :
    ∃ w, parsePair line = .ok (keyOf before, w) ∧
      ∀ u, ValueOrZero (fieldOf before) (bare after) u ↔ u = w := by
  have hsplit := Text.splitAtFirst?_eq_some_iff.2 ⟨hbefore, hline⟩
  have htrim : Text.trim (bare (Text.trim after)) = Text.trim (bare after) :=
    Text.trim_filter_trim _ after
  unfold parsePair
  rw [hsplit]
  refine ⟨_, rfl, fun u => ?_⟩
  rw [← valueOrZero_iff_of_trim_eq htrim, ← orZero_convert_eq_iff (keyOf before), eq_comm]
  exact Iff.rfl

theorem parsePair_eq_ok_iff (hbefore : ':' ∉ before) (hline : line.toList = before ++ ':' :: after)
    {w : Int64} : parsePair line = .ok (keyOf before, w) ↔
      ValueOrZero (fieldOf before) (bare after) w := by
  obtain ⟨v, hpair, hvalue⟩ := parsePair_of_colon hbefore hline
  rw [hpair, hvalue]
  simp [eq_comm]

/-- Marks after the colon do not matter. -/
theorem parsePair_of_bare_eq (hbefore : ':' ∉ before)
    (hline : line.toList = before ++ ':' :: after) {after' : List Char}
    (hbare : bare after' = bare after) :
    parsePair (String.ofList (before ++ ':' :: after')) = parsePair line := by
  obtain ⟨w, hpair, hvalue⟩ := parsePair_of_colon hbefore hline
  rw [hpair, parsePair_eq_ok_iff hbefore String.toList_ofList, hbare, hvalue]

/-- Digits that are grouped in any way are read as the number that they spell. -/
theorem parsePair_of_grouped (hbefore : ':' ∉ before)
    (hline : line.toList = before ++ ':' :: after) {n : Int64}
    (hgrouped : Text.trim (bare after) = Numeral.ofInt n.toInt) :
    (fieldOf before ≠ "Critical Warning" → ¬CountsDataUnits (fieldOf before) →
      parsePair line = .ok (keyOf before, n)) ∧
    (CountsDataUnits (fieldOf before) → ∀ w, IsBytesOf w n →
      parsePair line = .ok (keyOf before, w)) := by
  have hspells : Spells 10 (Numeral.ofInt n.toInt) n.toInt := Numeral.spells_ofInt n.toInt
  have hfirst : Text.Spelled [Numeral.ofInt n.toInt] (bare after) := by
    rw [← Text.words_eq_iff, ← Text.words_trim, hgrouped]
    exact Text.words_of_isWord (isWord_ofInt n.toInt)
  simp only [parsePair_eq_ok_iff hbefore hline]
  constructor
  · intro hwarning hunits
    by_cases htemperature : fieldOf before = "Temperature"
    · exact .inl (.temperature htemperature hfirst hspells)
    · exact .inl (.other ⟨htemperature, hwarning, hunits⟩ (hgrouped ▸ hspells))
  · intro hunits w hbytes
    exact .inl (.dataUnits hunits hfirst hspells hbytes)

theorem parsePair_of_grouped_hex (hbefore : ':' ∉ before)
    (hline : line.toList = before ++ ':' :: after) {n : Int64} (hn : 0 ≤ n.toInt)
    (hgrouped : Text.trim (bare after) = Nat.toDigits 16 n.toInt.toNat)
    (hfield : fieldOf before = "Critical Warning") :
    parsePair line = .ok (keyOf before, n) := by
  have hspells : Spells 16 (Nat.toDigits 16 n.toInt.toNat) n.toInt.toNat :=
    .unsigned (Numeral.spellsNat_toDigits (by decide) _)
  rw [Int.toNat_of_nonneg hn] at hspells
  rw [parsePair_eq_ok_iff hbefore hline]
  exact .inl (.criticalWarning hfield ⟨[], by simp, _, hgrouped, hspells⟩)

end

/-- A line without a colon is refused as it is. Any other line gives the key of its field and one
word: the value of the field, or zero if the text after the colon is no value of it. Marks in that
text can be put in and taken out at will, so grouped digits are read as the number they spell. -/
theorem parsePair_converts (line : String) :
    (∀ fault, parsePair line = .error fault ↔
      ':' ∉ line.toList ∧ fault = .missingSeparator line) ∧
    ∀ before after : List Char, ':' ∉ before → line.toList = before ++ ':' :: after →
      (∃ w, parsePair line = .ok (keyOf before, w) ∧
        ∀ u, ValueOrZero (fieldOf before) (bare after) u ↔ u = w) ∧
      (∀ after', bare after' = bare after →
        parsePair (String.ofList (before ++ ':' :: after')) = parsePair line) ∧
      (∀ n : Int64, Text.trim (bare after) = Numeral.ofInt n.toInt →
        (fieldOf before ≠ "Critical Warning" → ¬CountsDataUnits (fieldOf before) →
          parsePair line = .ok (keyOf before, n)) ∧
        (CountsDataUnits (fieldOf before) → ∀ w, IsBytesOf w n →
          parsePair line = .ok (keyOf before, w))) ∧
      ∀ n : Int64, 0 ≤ n.toInt → Text.trim (bare after) = Nat.toDigits 16 n.toInt.toNat →
        fieldOf before = "Critical Warning" → parsePair line = .ok (keyOf before, n) :=
  ⟨fun _ => parsePair_eq_error_iff, fun _ _ hbefore hline =>
    ⟨parsePair_of_colon hbefore hline, fun _ => parsePair_of_bare_eq hbefore hline,
      fun _ => parsePair_of_grouped hbefore hline,
      fun _ => parsePair_of_grouped_hex hbefore hline⟩⟩

/-- A decimal mark is taken out like any other, so one percent is read as a hundred. -/
theorem parsePair_converts_marked :
    ':' ∉ "Available Spare".toList ∧
      "Available Spare: 1,00%".toList = "Available Spare".toList ++ ':' :: " 1,00%".toList ∧
      parsePair "Available Spare: 1,00%" = .ok ("Available_Spare", 100) := by
  have hbefore : ':' ∉ "Available Spare".toList := by decide
  have hline : "Available Spare: 1,00%".toList =
      "Available Spare".toList ++ ':' :: " 1,00%".toList := by decide
  have hgrouped := ((parsePair_converts "Available Spare: 1,00%").2 _ _ hbefore hline).2.2.1
  refine ⟨hbefore, hline, ?_⟩
  exact (hgrouped 100 (by decide)).1 (by decide) (by decide)

end DiskHealth.Telemetry.KeyValue
