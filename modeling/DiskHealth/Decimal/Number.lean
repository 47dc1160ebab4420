import DiskHealth.Decimal.Binary64
import DiskHealth.Decimal.Rounded
import DiskHealth.Decimal.Shortest

/-!
Written decimals: a sign, a whole part without leading zeros, digits after the point, and an
exponent of ten. A number says how a decimal is spelled and not only its value: `1.50` and `1.5`
differ. A layout chooses among the shortest decimals that read back as a given double, and among the
spellings of each.
-/

namespace DiskHealth.Decimal

abbrev Digit := Fin 10

def Digit.toChar (d : Digit) : Char :=
  Nat.digitChar d

def Digit.ofChar? (c : Char) : Option Digit :=
  if h : '0'.toNat ≤ c.toNat ∧ c.toNat < '0'.toNat + 10 then
    some ⟨c.toNat - '0'.toNat, by omega⟩
  else none

/-- The last `count` digits of a natural number, zeros in front included. -/
def lastDigits : (count : Nat) → Nat → List Digit
  | 0, _ => []
  | count + 1, n => lastDigits count (n / 10) ++ [Fin.ofNat 10 n]

/-- The number that digits spell after digits of value `high`. -/
def appendDigits (high : Nat) (digits : List Digit) : Nat :=
  digits.foldl (fun n d => 10 * n + d.val) high

/-- A decimal as it is written. -/
structure Number where
  /-- Whether a minus sign stands in front. -/
  negative : Bool
  /-- The part before the point. -/
  whole : Nat
  /-- The digits after the point, which is there exactly if they are. -/
  fraction : List Digit
  /-- The exponent of ten, if there is one. -/
  exponent : Option Int
  deriving DecidableEq, Repr

namespace Number

/-- The exponent of ten as it is written, always with its sign. -/
def exponentText : Option Int → List Char
  | none => []
  | some e => 'e' :: (if e < 0 then '-' else '+') :: Nat.toDigits 10 e.natAbs

/-- The digits after the point, with the point. -/
def fractionText : List Digit → List Char
  | [] => []
  | digits => '.' :: digits.map Digit.toChar

def write (n : Number) : List Char :=
  (if n.negative then ['-'] else []) ++ Nat.toDigits 10 n.whole ++ fractionText n.fraction ++
    exponentText n.exponent

/-- An integer, without point and exponent. -/
def ofInt (n : Int) : Number :=
  ⟨n < 0, n.natAbs, [], none⟩

/-- The value of a decimal that is written as an integer. A zero with a minus sign is not one. -/
def toInt? (n : Number) : Option Int :=
  if n.fraction = [] ∧ n.exponent = none ∧ ¬(n.negative ∧ n.whole = 0) then
    some (if n.negative then -n.whole else n.whole)
  else none

/-- The quotient `num / den` with `count` decimals, rounded to the nearest such number. -/
def ofQuotient (count num den : Nat) : Number :=
  let scaled := roundDiv (num * Nat.pow 10 count) den
  ⟨false, scaled / Nat.pow 10 count, lastDigits count scaled, none⟩

theorem toInt?_ofInt (n : Int) : (ofInt n).toInt? = some n := by
  have hzero : ¬(decide (n < 0) = true ∧ n.natAbs = 0) := by
    rw [decide_eq_true_iff]
    omega
  have hvalue : (if decide (n < 0) = true then -(n.natAbs : Int) else n.natAbs) = n := by
    split
    · rename_i h
      rw [decide_eq_true_iff] at h
      omega
    · rename_i h
      rw [decide_eq_true_iff] at h
      omega
  unfold toInt? ofInt
  rw [if_pos ⟨rfl, rfl, hzero⟩]
  exact congrArg some hvalue

end Number

/-- Which spelling of a decimal is written. -/
structure Layout where
  /-- The exponents of the leading digit for which no exponent is written. -/
  isPositional : Int → Bool
  /-- Whether a whole number without exponent ends in a point and a zero. -/
  keepsPoint : Bool
  /-- Which of two shortest decimals that are equally near is written. -/
  tie : Tie

namespace Layout

/-- The digits after the point of a whole number without exponent. -/
def wholeFraction (layout : Layout) : List Digit :=
  if layout.keepsPoint then [0] else []

/-- The decimal `d * 10 ^ e`, or its negative, in the spelling of a layout. -/
def spell (layout : Layout) (negative : Bool) (d : Nat) (e : Int) : Number :=
  let length := (Nat.toDigits 10 d).length
  let leading := e + length - 1
  if layout.isPositional leading then
    if 0 ≤ e then ⟨negative, d * Nat.pow 10 e.toNat, layout.wholeFraction, none⟩
    else
      let count := (-e).toNat
      ⟨negative, d / Nat.pow 10 count, lastDigits count d, none⟩
  else ⟨negative, d / Nat.pow 10 (length - 1), lastDigits (length - 1) d, some leading⟩

/-- The shortest decimal that reads back as the double `m * 2 ^ q`, or its negative. -/
def finite (layout : Layout) (negative : Bool) (m : Nat) (q : Int) : Number :=
  if m = 0 then ⟨negative, 0, layout.wholeFraction, none⟩
  else
    let decimal := shortest layout.tie m q
    layout.spell negative decimal.1 decimal.2

end Layout

end DiskHealth.Decimal
