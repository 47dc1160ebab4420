/-!
Numerals: texts that spell an integer in some radix. A numeral is an optional sign and one or more
digits, with no bound on its length; `word?` then asks whether the value fits the 64-bit words that
all measured values are kept in, and `clamp` takes the nearest word instead.
-/

namespace DiskHealth.Numeral

/-- The value of a digit below `radix`, which is at most sixteen; letters are of either case. -/
def digit? (radix : Nat) (c : Char) : Option Nat :=
  let value :=
    if '0' ≤ c ∧ c ≤ '9' then c.toNat - 48
    else if 'a' ≤ c ∧ c ≤ 'f' then c.toNat - 87
    else if 'A' ≤ c ∧ c ≤ 'F' then c.toNat - 55
    else radix
  if value < radix then some value else none

/-- The value of digits that follow digits of value `high`. -/
def continue? (radix high : Nat) : List Char → Option Nat
  | [] => some high
  | c :: rest => (digit? radix c).bind fun d => continue? radix (high * radix + d) rest

/-- The value of one or more digits. -/
def natural? (radix : Nat) : List Char → Option Nat
  | [] => none
  | c :: rest => continue? radix 0 (c :: rest)

/-- The value of one or more digits, after an optional plus sign. -/
def unsigned? (radix : Nat) : List Char → Option Nat
  | '+' :: digits => natural? radix digits
  | digits => natural? radix digits

/-- The value of one or more digits, after an optional sign. -/
def integer? (radix : Nat) : List Char → Option Int
  | '-' :: digits => (natural? radix digits).map fun n => -(n : Int)
  | digits => (unsigned? radix digits).map Int.ofNat

/-- The 64-bit word of an integer in its range. -/
def word? (n : Int) : Option Int64 :=
  if -0x8000000000000000 ≤ n ∧ n < 0x8000000000000000 then some (Int64.ofInt n) else none

/-- The 64-bit word nearest to an integer. -/
def clamp (n : Int) : Int64 :=
  if n < -0x8000000000000000 then Int64.minValue
  else if 0x8000000000000000 ≤ n then Int64.maxValue
  else Int64.ofInt n

/-- The word that a numeral spells, if its value is in the range of words. -/
def read? (radix : Nat) (cs : List Char) : Option Int64 :=
  (integer? radix cs).bind word?

/-- The decimal digits of a natural number, without leading zeros. -/
def ofNat (n : Nat) : List Char :=
  Nat.toDigits 10 n

/-- The decimal text of an integer, with a minus sign if it is below zero. -/
def ofInt (n : Int) : List Char :=
  if n < 0 then '-' :: ofNat n.natAbs else ofNat n.natAbs

def ofWord (w : Int64) : String :=
  String.ofList (ofInt w.toInt)

theorem word?_toInt (w : Int64) : word? w.toInt = some w := by
  have h₁ := Int64.le_toInt w
  have h₂ := Int64.toInt_lt w
  simp only [word?, Int64.ofInt_toInt]
  rw [if_pos]
  omega

theorem toInt_of_word? {n : Int} {w : Int64} (h : word? n = some w) : w.toInt = n := by
  unfold word? at h
  split at h
  · rename_i hn
    cases h
    rw [Int64.toInt_ofInt]
    exact Int.bmod_eq_of_le (by simp [Int64.size]; omega) (by simp [Int64.size]; omega)
  · simp at h

/-- A word is what an integer gives exactly if the integer is the word's value. -/
theorem word?_eq_some_iff {n : Int} {w : Int64} : word? n = some w ↔ w.toInt = n :=
  ⟨toInt_of_word?, fun h => h ▸ word?_toInt w⟩

end DiskHealth.Numeral
