import DiskHealth.Numeral
import Mathlib.Data.Nat.Digits.Defs
import Mathlib.Data.List.Forall2

/-!
The texts that spell a number, and the numbers that printed texts spell. `Spells` says which texts
are numerals and of what value, without a bound on their length; numerals are read as just that
(`integer?_eq_some_iff`), and so are those without a minus sign (`unsigned?_eq_some_iff`) and those
whose value is a word (`read?_eq_some_iff`). Printed integers spell themselves, so every word reads
back from its decimal text.
-/

namespace DiskHealth.Numeral

/-- A character is the digit of a value; letters are of either case. -/
def DigitOf (radix d : Nat) (c : Char) : Prop :=
  d < radix ∧ (c = Nat.digitChar d ∨ c = (Nat.digitChar d).toUpper)

/-- One or more digits spell a natural number, the one of the lowest weight last. -/
def SpellsNat (radix : Nat) (cs : List Char) (n : Nat) : Prop :=
  cs ≠ [] ∧ ∃ digits, List.Forall₂ (DigitOf radix) digits cs ∧ Nat.ofDigits radix digits.reverse = n

/-- A text spells a natural number: digits, after a plus sign or none. -/
inductive SpellsUnsigned (radix : Nat) : List Char → Nat → Prop where
  | digits {cs : List Char} {n : Nat} (h : SpellsNat radix cs n) : SpellsUnsigned radix cs n
  | plus {cs : List Char} {n : Nat} (h : SpellsNat radix cs n) : SpellsUnsigned radix ('+' :: cs) n

/-- A text spells an integer: digits, after one sign or none. -/
inductive Spells (radix : Nat) : List Char → Int → Prop where
  | unsigned {cs : List Char} {n : Nat} (h : SpellsNat radix cs n) : Spells radix cs n
  | plus {cs : List Char} {n : Nat} (h : SpellsNat radix cs n) : Spells radix ('+' :: cs) n
  | minus {cs : List Char} {n : Nat} (h : SpellsNat radix cs n) : Spells radix ('-' :: cs) (-n)

section

variable {radix : Nat}

theorem digit?_of_digitOf (hradix : radix ≤ 16) {d : Nat} {c : Char} (h : DigitOf radix d c) :
    digit? radix c = some d := by
  obtain ⟨hlt, hc⟩ := h
  have hall : ∀ radix : Fin 17, ∀ d : Fin 16, d.val < radix.val →
      digit? radix (Nat.digitChar d) = some d.val ∧
        digit? radix (Nat.digitChar d).toUpper = some d.val := by decide +kernel
  have hdigit := hall ⟨radix, by omega⟩ ⟨d, by omega⟩ hlt
  rcases hc with rfl | rfl
  · exact hdigit.1
  · exact hdigit.2

theorem digitOf_of_digit? {d : Nat} {c : Char} (h : digit? radix c = some d) :
    DigitOf radix d c := by
  simp only [digit?, Char.le_def, UInt32.le_iff_toNat_le, Char.reduceVal, UInt32.reduceToNat,
    Option.ite_none_right_eq_some, Option.some.injEq] at h
  obtain ⟨hlt, hd⟩ := h
  have hval : c.val.toNat = c.toNat := rfl
  have hchar : c = Char.ofNat c.toNat := (Char.ofNat_toNat c).symm
  rw [hd] at hlt
  rw [hval] at hd
  refine ⟨hlt, ?_⟩
  split at hd
  · have decimal : ∀ d : Fin 10, Char.ofNat (d + 48) = Nat.digitChar d := by decide
    have hn : c.toNat = d + 48 := by omega
    exact .inl (hchar.trans (hn ▸ decimal ⟨d, by omega⟩))
  split at hd
  · have lower : ∀ d : Fin 6, Char.ofNat (d + 97) = Nat.digitChar (d + 10) := by decide
    obtain ⟨e, rfl⟩ : ∃ e, d = e + 10 := ⟨d - 10, by omega⟩
    have hn : c.toNat = e + 97 := by omega
    exact .inl (hchar.trans (hn ▸ lower ⟨e, by omega⟩))
  split at hd
  · have upper : ∀ d : Fin 6, Char.ofNat (d + 65) = (Nat.digitChar (d + 10)).toUpper := by decide
    obtain ⟨e, rfl⟩ : ∃ e, d = e + 10 := ⟨d - 10, by omega⟩
    have hn : c.toNat = e + 65 := by omega
    exact .inr (hchar.trans (hn ▸ upper ⟨e, by omega⟩))
  · omega

/-- Digits are worth what they spell, and shift the digits before them. -/
theorem continue?_eq_some_iff (hradix : radix ≤ 16) {high n : Nat} {cs : List Char} :
    continue? radix high cs = some n ↔ ∃ digits, List.Forall₂ (DigitOf radix) digits cs ∧
      high * radix ^ cs.length + Nat.ofDigits radix digits.reverse = n := by
  induction cs generalizing high with
  | nil => simp [continue?]
  | cons c rest ih =>
    have hdigit : ∀ d, digit? radix c = some d ↔ DigitOf radix d c :=
      fun d => ⟨digitOf_of_digit?, digit?_of_digitOf hradix⟩
    have hshift : ∀ d (digits : List Nat), List.Forall₂ (DigitOf radix) digits rest →
        high * radix ^ (rest.length + 1) + Nat.ofDigits radix (d :: digits).reverse =
          (high * radix + d) * radix ^ rest.length + Nat.ofDigits radix digits.reverse := by
      intro d digits hdigits
      rw [List.reverse_cons, Nat.ofDigits_append, Nat.ofDigits_singleton, List.length_reverse,
        hdigits.length_eq]
      ring
    simp only [continue?, Option.bind_eq_some_iff, hdigit, ih]
    constructor
    · rintro ⟨d, hd, digits, hdigits, hn⟩
      exact ⟨d :: digits, .cons hd hdigits, (hshift d digits hdigits).trans hn⟩
    · rintro ⟨_, hdigits, hn⟩
      cases hdigits with
      | cons hd hdigits => exact ⟨_, hd, _, hdigits, (hshift _ _ hdigits).symm.trans hn⟩

theorem natural?_eq_some_iff (hradix : radix ≤ 16) {cs : List Char} {n : Nat} :
    natural? radix cs = some n ↔ SpellsNat radix cs n := by
  cases cs with
  | nil => simp [natural?, SpellsNat]
  | cons c rest => simp [natural?, SpellsNat, continue?_eq_some_iff hradix]

/-- No digit is a sign, so a text with a sign is no digits. -/
theorem SpellsNat.not_sign (hradix : radix ≤ 16) {c : Char} {cs : List Char} {n : Nat}
    (h : SpellsNat radix (c :: cs) n) : c ≠ '+' ∧ c ≠ '-' := by
  obtain ⟨-, digits, hdigits, -⟩ := h
  cases hdigits with
  | cons hd _ =>
    have hread := digit?_of_digitOf hradix hd
    constructor
    · rintro rfl
      simp [digit?] at hread
    · rintro rfl
      simp [digit?] at hread

theorem Spells.ne_nil {cs : List Char} {n : Int} (h : Spells radix cs n) : cs ≠ [] := by
  cases h with
  | unsigned h => exact h.1
  | plus => exact List.cons_ne_nil _ _
  | minus => exact List.cons_ne_nil _ _

theorem unsigned?_of_spellsNat (hradix : radix ≤ 16) {cs : List Char} {n : Nat}
    (h : SpellsNat radix cs n) : unsigned? radix cs = some n := by
  unfold unsigned?
  split
  · exact absurd rfl (h.not_sign hradix).1
  · exact (natural?_eq_some_iff hradix).2 h

theorem unsigned?_eq_some_iff (hradix : radix ≤ 16) {cs : List Char} {n : Nat} :
    unsigned? radix cs = some n ↔ SpellsUnsigned radix cs n := by
  constructor
  · intro h
    unfold unsigned? at h
    split at h
    · exact .plus ((natural?_eq_some_iff hradix).1 h)
    · exact .digits ((natural?_eq_some_iff hradix).1 h)
  · rintro (h | h)
    · exact unsigned?_of_spellsNat hradix h
    · exact (natural?_eq_some_iff hradix).2 h

theorem spells_of_integer? (hradix : radix ≤ 16) {cs : List Char} {n : Int}
    (h : integer? radix cs = some n) : Spells radix cs n := by
  unfold integer? at h
  split at h
  · rename_i ds
    cases hm : natural? radix ds with
    | none => simp [hm] at h
    | some m =>
      have hn : -(m : Int) = n := by simpa [hm] using h
      exact hn ▸ .minus ((natural?_eq_some_iff hradix).1 hm)
  · obtain ⟨m, hm, rfl⟩ := Option.map_eq_some_iff.1 h
    cases (unsigned?_eq_some_iff hradix).1 hm with
    | digits hdigits => exact .unsigned hdigits
    | plus hdigits => exact .plus hdigits

theorem integer?_of_spells (hradix : radix ≤ 16) {cs : List Char} {n : Int}
    (h : Spells radix cs n) : integer? radix cs = some n := by
  cases h with
  | minus h =>
    rw [integer?, (natural?_eq_some_iff hradix).2 h]
    rfl
  | plus h =>
    rw [integer?, (unsigned?_eq_some_iff hradix).2 (.plus h)]
    · rfl
    · simp
  | unsigned h =>
    unfold integer?
    split
    · exact absurd rfl (h.not_sign hradix).2
    · rw [unsigned?_of_spellsNat hradix h]
      rfl

theorem integer?_eq_some_iff (hradix : radix ≤ 16) {cs : List Char} {n : Int} :
    integer? radix cs = some n ↔ Spells radix cs n :=
  ⟨spells_of_integer? hradix, integer?_of_spells hradix⟩

/-- A text reads as a word exactly if it spells the word's value. -/
theorem read?_eq_some_iff (hradix : radix ≤ 16) {cs : List Char} {w : Int64} :
    read? radix cs = some w ↔ Spells radix cs w.toInt := by
  simp only [read?, Option.bind_eq_some_iff, integer?_eq_some_iff hradix, word?_eq_some_iff]
  exact ⟨fun ⟨_, hn, hw⟩ => hw ▸ hn, fun h => ⟨_, h, rfl⟩⟩

/-- The digits of a number spell it. -/
theorem spellsNat_toDigits (hradix : 1 < radix) (n : Nat) :
    SpellsNat radix (Nat.toDigits radix n) n := by
  refine ⟨Nat.toDigits_ne_nil, ?_⟩
  induction n using Nat.strongRecOn with
  | ind n ih =>
    rcases Nat.lt_or_ge n radix with hlt | hge
    · rw [Nat.toDigits_of_lt_base hlt]
      exact ⟨[n], .cons ⟨hlt, .inl rfl⟩ .nil, by simp⟩
    · obtain ⟨digits, hdigits, hvalue⟩ := ih (n / radix) (Nat.div_lt_self (by omega) hradix)
      rw [Nat.toDigits_of_base_le hradix hge]
      have hlast : DigitOf radix (n % radix) (Nat.digitChar (n % radix)) :=
        ⟨Nat.mod_lt n (by omega), .inl rfl⟩
      refine ⟨digits ++ [n % radix], List.rel_append hdigits (.cons hlast .nil), ?_⟩
      rw [List.reverse_append, List.reverse_singleton, List.singleton_append, Nat.ofDigits_cons,
        hvalue]
      exact Nat.mod_add_div n radix

end

theorem spellsNat_ofNat (n : Nat) : SpellsNat 10 (ofNat n) n :=
  spellsNat_toDigits (by decide) n

theorem spells_ofInt (n : Int) : Spells 10 (ofInt n) n := by
  unfold ofInt
  split
  · have hn : n = -(n.natAbs : Int) := by omega
    rw [hn, Int.natAbs_neg, Int.natAbs_natCast]
    exact .minus (spellsNat_ofNat n.natAbs)
  · have hn : n = (n.natAbs : Int) := by omega
    rw [hn, Int.natAbs_natCast]
    exact .unsigned (spellsNat_ofNat n.natAbs)

theorem unsigned?_ofNat (n : Nat) : unsigned? 10 (ofNat n) = some n :=
  unsigned?_of_spellsNat (by decide) (spellsNat_ofNat n)

/-- A word reads back from its decimal text. -/
theorem read?_ofInt (w : Int64) : read? 10 (ofInt w.toInt) = some w :=
  (read?_eq_some_iff (by decide)).2 (spells_ofInt w.toInt)

/-- The word nearest to an integer has its value, or the end of the range that it is beyond. -/
theorem toInt_clamp (n : Int) :
    (clamp n).toInt = max (-0x8000000000000000) (min n 0x7FFFFFFFFFFFFFFF) := by
  unfold clamp
  split
  · have hmin : Int64.minValue.toInt = -0x8000000000000000 := rfl
    omega
  split
  · have hmax : Int64.maxValue.toInt = 0x7FFFFFFFFFFFFFFF := rfl
    omega
  · have hword : word? n = some (Int64.ofInt n) := if_pos (by omega)
    rw [toInt_of_word? hword]
    omega

theorem ofNat_ne_nil (n : Nat) : ofNat n ≠ [] :=
  Nat.toDigits_ne_nil

theorem isDigit_of_mem_ofNat {n : Nat} {c : Char} (h : c ∈ ofNat n) : c.isDigit = true :=
  Nat.isDigit_of_mem_toDigits (by decide) (by decide) h

/-- A decimal text holds digits, after a minus sign if there is one. -/
theorem mem_ofInt {n : Int} {c : Char} (h : c ∈ ofInt n) : c = '-' ∨ c.isDigit = true := by
  unfold ofInt at h
  split at h
  · rcases List.mem_cons.1 h with rfl | h
    · exact .inl rfl
    · exact .inr (isDigit_of_mem_ofNat h)
  · exact .inr (isDigit_of_mem_ofNat h)

theorem ofInt_ne_nil (n : Int) : ofInt n ≠ [] := by
  unfold ofInt
  split
  · exact List.cons_ne_nil _ _
  · exact ofNat_ne_nil _

end DiskHealth.Numeral
