import DiskHealth.Json.Reader

/-!
Written numbers read back. A number is followed by a character that cannot belong to it, so each of
its three parts is read up to its own end (`readWhole_append`, `readFraction_append`,
`readExponent_append`), and together they give the number as it was spelled (`readNumber_append`).
-/

namespace DiskHealth.Decimal

theorem Digit.ofChar?_toChar (d : Digit) : Digit.ofChar? d.toChar = some d := by
  revert d
  decide

theorem Digit.toChar_ne_minus (d : Digit) : d.toChar ≠ '-' := by
  revert d
  decide

theorem Digit.toChar_ofNat (n : Nat) : Digit.toChar (Fin.ofNat 10 n) = Nat.digitChar (n % 10) := rfl

theorem appendDigits_cons (high : Nat) (d : Digit) (ds : List Digit) :
    appendDigits high (d :: ds) = appendDigits (10 * high + d.val) ds := rfl

theorem appendDigits_concat (high : Nat) (ds : List Digit) (d : Digit) :
    appendDigits high (ds ++ [d]) = 10 * appendDigits high ds + d.val := by
  simp [appendDigits]

/-- The decimal digits of a number: they spell it, and only zero begins with a zero. -/
theorem exists_digits (n : Nat) :
    ∃ d ds, Nat.toDigits 10 n = (d :: ds).map Digit.toChar ∧ appendDigits 0 (d :: ds) = n ∧
      (d.val = 0 → ds = []) := by
  induction n using Nat.strongRecOn with
  | ind n ih =>
    rcases Nat.lt_or_ge n 10 with hlt | hge
    · have hmod : n % 10 = n := Nat.mod_eq_of_lt hlt
      refine ⟨Fin.ofNat 10 n, [], ?_, ?_, fun _ => rfl⟩
      · rw [Nat.toDigits_of_lt_base hlt, List.map_cons, List.map_nil, Digit.toChar_ofNat, hmod]
      · simp [appendDigits, hmod]
    · have hsmaller : n / 10 < n := by omega
      obtain ⟨d, ds, hchars, hvalue, hzero⟩ := ih (n / 10) hsmaller
      refine ⟨d, ds ++ [Fin.ofNat 10 n], ?_, ?_, ?_⟩
      · rw [Nat.toDigits_of_base_le (by decide) hge, hchars, ← List.cons_append, List.map_append]
        rfl
      · have hlast : (Fin.ofNat 10 n).val = n % 10 := rfl
        rw [← List.cons_append, appendDigits_concat, hvalue, hlast]
        omega
      · intro hd
        have hnil := hzero hd
        subst hnil
        simp [appendDigits] at hvalue
        omega

end DiskHealth.Decimal

namespace DiskHealth.Json

open Decimal (Digit Number appendDigits exists_digits)
open Decimal.Number (fractionText exponentText)

theorem forall_mem_of_all {p : Char → Prop} [DecidablePred p] {cs : List Char}
    (h : cs.all (fun c => decide (p c)) = true) : ∀ c ∈ cs, p c := by
  intro c hc
  exact of_decide_eq_true (List.all_eq_true.1 h c hc)

/-- What may stand after a value: the end, white space, a comma, or the end of a container. -/
def Closes (rest : List Char) : Prop :=
  ∀ c ∈ rest.head?, isSpace c = true ∨ c = ',' ∨ c = ']' ∨ c = '}'

theorem closes_nil : Closes [] := by
  intro c hc
  cases hc

theorem closes_cons {c : Char} (rest : List Char)
    (hc : isSpace c = true ∨ c = ',' ∨ c = ']' ∨ c = '}') : Closes (c :: rest) := by
  intro d hd
  cases hd
  exact hc

/-- The characters that may stand after a value, one by one. -/
theorem Closes.mem {c : Char} {rest : List Char} (h : Closes (c :: rest)) :
    c ∈ [' ', '\t', '\n', '\r', ',', ']', '}'] := by
  rcases h c rfl with hc | hc | hc | hc
  · simp only [isSpace, Bool.or_eq_true, beq_iff_eq] at hc
    rcases hc with ((rfl | rfl) | rfl) | rfl <;> decide
  all_goals
    subst hc
    decide

/-- The rest of a text begins with no digit. -/
def NoDigit (rest : List Char) : Prop :=
  ∀ c ∈ rest.head?, Digit.ofChar? c = none

theorem noDigit_cons {c : Char} (rest : List Char) (hc : Digit.ofChar? c = none) :
    NoDigit (c :: rest) := by
  intro d hd
  cases hd
  exact hc

theorem Closes.noDigit {rest : List Char} (h : Closes rest) : NoDigit rest := by
  cases rest with
  | nil =>
    intro c hc
    cases hc
  | cons c rest =>
    have hall : ∀ c ∈ [' ', '\t', '\n', '\r', ',', ']', '}'], Digit.ofChar? c = none :=
      forall_mem_of_all (by decide)
    exact noDigit_cons rest (hall c h.mem)

theorem digitRun_append (ds : List Digit) {rest : List Char} (h : NoDigit rest) :
    digitRun (ds.map Digit.toChar ++ rest) = (ds, rest) := by
  induction ds with
  | nil =>
    cases rest with
    | nil => rfl
    | cons c rest =>
      have hc : Digit.ofChar? c = none := h c rfl
      simp [digitRun, hc]
  | cons d ds ih => simp [digitRun, Digit.ofChar?_toChar, ih]

theorem readWhole_append (n : Nat) {rest : List Char} (h : NoDigit rest) :
    readWhole (Nat.toDigits 10 n ++ rest) = some (n, rest) := by
  obtain ⟨d, ds, hchars, hvalue, hzero⟩ := exists_digits n
  have hrun := digitRun_append (d :: ds) h
  rw [hchars, readWhole, hrun]
  rw [Decimal.appendDigits_cons, Nat.mul_zero, Nat.zero_add] at hvalue
  cases ds with
  | nil => exact congrArg (fun n => some (n, rest)) hvalue
  | cons e ds =>
    have hd : d.val ≠ 0 := fun hd => by cases hzero hd
    simp [hd, hvalue]

theorem readFraction_append (ds : List Digit) {rest : List Char} (h : NoDigit rest)
    (hpoint : rest.head? ≠ some '.') :
    readFraction (fractionText ds ++ rest) = some (ds, rest) := by
  cases ds with
  | nil =>
    cases rest with
    | nil => rfl
    | cons c rest =>
      have hc : c ≠ '.' := by simpa using hpoint
      simp [fractionText, readFraction, hc]
  | cons d ds =>
    have hrun := digitRun_append (d :: ds) h
    simp only [fractionText, List.cons_append, readFraction, hrun]

theorem readMagnitude_append (negative : Bool) (n : Nat) {rest : List Char} (h : NoDigit rest) :
    readMagnitude negative (Nat.toDigits 10 n ++ rest) =
      some (some (if negative then -(n : Int) else n), rest) := by
  obtain ⟨d, ds, hchars, hvalue, -⟩ := exists_digits n
  have hrun := digitRun_append (d :: ds) h
  rw [hchars, readMagnitude, hrun]
  simp only [hvalue]

theorem readExponent_append (e : Option Int) {rest : List Char} (h : Closes rest) :
    readExponent (exponentText e ++ rest) = some (e, rest) := by
  cases e with
  | none =>
    cases rest with
    | nil => rfl
    | cons c rest =>
      have hall : ∀ c ∈ [' ', '\t', '\n', '\r', ',', ']', '}'], ¬(c = 'e' ∨ c = 'E') :=
        forall_mem_of_all (by decide)
      exact if_neg (hall c h.mem)
  | some e =>
    by_cases he : e < 0
    · have hvalue : -(e.natAbs : Int) = e := by omega
      have hread := readMagnitude_append true e.natAbs h.noDigit
      simp only [exponentText, he, if_true, List.cons_append, readExponent, true_or, hread, hvalue]
    · have hvalue : (e.natAbs : Int) = e := by omega
      have hread := readMagnitude_append false e.natAbs h.noDigit
      simp [exponentText, he, readExponent, hread, hvalue]

/-- What stands after the whole part of a number begins with a point, with the mark of the exponent,
or with what follows the number. -/
theorem noDigit_exponentText (e : Option Int) {rest : List Char} (h : Closes rest) :
    NoDigit (exponentText e ++ rest) := by
  cases e with
  | none => exact h.noDigit
  | some e => exact noDigit_cons _ (by decide)

theorem noDigit_fractionText (ds : List Digit) {rest : List Char} (h : NoDigit rest) :
    NoDigit (fractionText ds ++ rest) := by
  cases ds with
  | nil => exact h
  | cons d ds => exact noDigit_cons _ (by decide)

theorem head?_exponentText_ne (e : Option Int) {rest : List Char} (h : Closes rest) :
    (exponentText e ++ rest).head? ≠ some '.' := by
  cases e with
  | none =>
    intro hpoint
    cases rest with
    | nil => cases hpoint
    | cons c rest =>
      cases hpoint
      exact absurd h.mem (by decide)
  | some e => simp [exponentText]

theorem readUnsigned_append (n : Number) {rest : List Char} (h : Closes rest) :
    readUnsigned n.negative
        (Nat.toDigits 10 n.whole ++
          (fractionText n.fraction ++ (exponentText n.exponent ++ rest))) =
      some (n, rest) := by
  have hexponent := noDigit_exponentText n.exponent h
  unfold readUnsigned
  rw [readWhole_append n.whole (noDigit_fractionText n.fraction hexponent)]
  simp only [Option.bind_eq_bind, Option.bind_some]
  rw [readFraction_append n.fraction hexponent (head?_exponentText_ne n.exponent h)]
  simp only [Option.bind_some]
  rw [readExponent_append n.exponent h]
  rfl

/-- A written number reads back as it was spelled. -/
theorem readNumber_append (n : Number) {rest : List Char} (h : Closes rest) :
    readNumber (n.write ++ rest) = some (n, rest) := by
  have hread := readUnsigned_append n h
  cases hn : n.negative with
  | true =>
    rw [hn] at hread
    simpa [Number.write, hn, readNumber] using hread
  | false =>
    rw [hn] at hread
    obtain ⟨d, ds, hchars, -, -⟩ := exists_digits n.whole
    have hsign := d.toChar_ne_minus
    rw [hchars] at hread
    simp only [Number.write, hn, hchars, List.map_cons, List.cons_append, List.append_assoc]
      at hread ⊢
    simpa [readNumber, hsign] using hread

end DiskHealth.Json
