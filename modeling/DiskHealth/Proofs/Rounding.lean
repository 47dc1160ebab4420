import DiskHealth.Decimal.Rounded
import Mathlib.Algebra.Group.Nat.Defs

/-!
Rounded quotients. A quotient is rounded down or up (`roundDiv_cases`), so rounding does not pass a
whole number, and it reaches an even number from halfway below it. No power of two lies between a
number and the nearest one of 53 significant bits.
-/

namespace DiskHealth.Decimal

section

variable {num den : Nat}

theorem roundDiv_cases (num den : Nat) :
    (roundDiv num den = num / den ∧ 2 * (num % den) ≤ den ∧
      (2 * (num % den) = den → num / den % 2 = 0)) ∨
    (roundDiv num den = num / den + 1 ∧ den ≤ 2 * (num % den) ∧
      (2 * (num % den) = den → num / den % 2 = 1)) := by
  unfold roundDiv
  dsimp only
  split
  · exact .inl ⟨rfl, by omega, by omega⟩
  split
  · exact .inr ⟨rfl, by omega, by omega⟩
  split
  · exact .inl ⟨rfl, by omega, by omega⟩
  · exact .inr ⟨rfl, by omega, by omega⟩

/-- The rounded quotient is at most one half off. -/
theorem roundDiv_near (hden : 0 < den) :
    2 * num ≤ 2 * (roundDiv num den * den) + den ∧
      2 * (roundDiv num den * den) ≤ 2 * num + den := by
  have hnum := Nat.div_add_mod' num den
  have hrest := Nat.mod_lt num hden
  rcases roundDiv_cases num den with ⟨heq, hhalf, -⟩ | ⟨heq, hhalf, -⟩
  · rw [heq]
    omega
  · have hnext : (num / den + 1) * den = num / den * den + den := Nat.succ_mul _ _
    rw [heq]
    omega

theorem le_roundDiv {m : Nat} (hden : 0 < den) (h : m * den ≤ num) : m ≤ roundDiv num den := by
  have hlow : m ≤ num / den := (Nat.le_div_iff_mul_le hden).2 h
  rcases roundDiv_cases num den with ⟨heq, -⟩ | ⟨heq, -⟩ <;> omega

theorem roundDiv_le {m : Nat} (hden : 0 < den) (h : num ≤ m * den) : roundDiv num den ≤ m := by
  have hnum := Nat.div_add_mod' num den
  have hrest := Nat.mod_lt num hden
  have hlow : num / den ≤ m := Nat.div_le_of_le_mul (by rwa [Nat.mul_comm])
  rcases Nat.lt_or_eq_of_le hlow with hlt | rfl
  · rcases roundDiv_cases num den with ⟨heq, -⟩ | ⟨heq, -⟩ <;> omega
  · rcases roundDiv_cases num den with ⟨heq, -⟩ | ⟨heq, hhalf, -⟩ <;> omega

/-- A quotient is rounded to more than an odd number from halfway above that. -/
theorem lt_roundDiv_iff {m : Nat} (hden : 0 < den) (hodd : m % 2 = 1) :
    m < roundDiv num den ↔ 2 * (m * den) + den ≤ 2 * num := by
  have hnum := Nat.div_add_mod' num den
  have hrest := Nat.mod_lt num hden
  rcases Nat.lt_trichotomy (num / den) m with hlt | rfl | hgt
  · have hbelow := Nat.mul_le_mul_right den hlt
    rw [Nat.succ_mul] at hbelow
    rcases roundDiv_cases num den with ⟨heq, -⟩ | ⟨heq, -⟩ <;> omega
  · rcases roundDiv_cases num den with ⟨heq, hhalf, heven⟩ | ⟨heq, hhalf, -⟩ <;> omega
  · have habove := Nat.mul_le_mul_right den hgt
    rw [Nat.succ_mul] at habove
    rcases roundDiv_cases num den with ⟨heq, -⟩ | ⟨heq, -⟩ <;> omega

end

/-! ### Powers of two -/

/-- The unit of the last of 53 significant bits divides the powers of two above it. -/
theorem pow_eq_mul_unit {n j : Nat} (h : Nat.log2 n ≤ j) :
    2 ^ j = 2 ^ (j - (Nat.log2 n - 52)) * 2 ^ (Nat.log2 n - 52) := by
  rw [← Nat.pow_add]
  congr 1
  omega

theorem le_toBinary {n j : Nat} (h : 2 ^ j ≤ n) : 2 ^ j ≤ toBinary n := by
  have hpos : n ≠ 0 := by
    have := Nat.two_pow_pos j
    omega
  have hj : j ≤ Nat.log2 n := (Nat.le_log2 hpos).2 h
  have hunit := pow_eq_mul_unit (n := n) (Nat.le_refl _)
  calc 2 ^ j ≤ 2 ^ Nat.log2 n := Nat.pow_le_pow_right (by decide) hj
    _ = 2 ^ (Nat.log2 n - (Nat.log2 n - 52)) * 2 ^ (Nat.log2 n - 52) := hunit
    _ ≤ toBinary n := by
      refine Nat.mul_le_mul_right _ (le_roundDiv (Nat.two_pow_pos _) ?_)
      rw [Nat.pow_eq, ← hunit]
      exact Nat.log2_self_le hpos

theorem toBinary_le {n j : Nat} (h : n ≤ 2 ^ j) : toBinary n ≤ 2 ^ j := by
  have hj : Nat.log2 n ≤ j := by
    rcases Nat.eq_zero_or_pos n with rfl | hpos
    · simp
    · have hlog := Nat.log2_self_le (by omega : n ≠ 0)
      exact (Nat.pow_le_pow_iff_right (by decide)).1 (Nat.le_trans hlog h)
  have hunit := pow_eq_mul_unit hj
  rw [hunit] at h ⊢
  exact Nat.mul_le_mul_right _ (roundDiv_le (Nat.two_pow_pos _) h)

end DiskHealth.Decimal
