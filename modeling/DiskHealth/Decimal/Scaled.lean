import DiskHealth.Decimal.Number

/-!
The double that a written decimal stands for in stored state. The leading digits that fit 64 bits
are kept as one whole number, which is then scaled by a power of ten; of the digits dropped only
their places count. A decimal of at most fifteen digits with a small exponent comes out exact to the
last bit, since both factors are; a longer one may miss the nearest double by a few units in the
last place.
-/

namespace DiskHealth.Decimal

/-- The number of the leading digits that keep it below `2 ^ 64`, after digits of value `high`, and
how many digits are left over. -/
def keepDigits (high : Nat) : List Digit → Nat × Nat
  | [] => (high, 0)
  | d :: ds =>
    if 10 * high + d < 0x10000000000000000 then keepDigits (10 * high + d) ds
    else (high, ds.length + 1)

def powerOfTen (n : Nat) : Float :=
  OfScientific.ofScientific 1 false n

/-- The greatest power of ten that a double can hold, by its exponent. -/
def maxPower : Nat := 308

/-- The double `n * 10 ^ e`. Too great a product is refused, too small a quotient is zero. -/
def scale? (n : Nat) (e : Int) : Option Float :=
  let x := Float.ofNat n
  if n = 0 then some x
  else if 0 ≤ e then
    let product := x * powerOfTen e.toNat
    if e.toNat ≤ maxPower ∧ product.isInf = false then some product else none
  else
    let divisor := (-e).toNat
    if divisor ≤ maxPower then some (x / powerOfTen divisor)
    else if divisor ≤ 2 * maxPower then
      some (x / powerOfTen maxPower / powerOfTen (divisor - maxPower))
    else some 0

/-- The digits of a natural number. -/
def wholeDigits (n : Nat) : List Digit :=
  lastDigits (Nat.toDigits 10 n).length n

/-- The double that a decimal stands for, unless it is out of range. -/
def Number.toFloat? (n : Number) : Option Float :=
  let whole := keepDigits 0 (wholeDigits n.whole)
  let kept := keepDigits whole.1 n.fraction
  let places := n.fraction.length - kept.2
  let magnitude := scale? kept.1 (whole.2 - places + n.exponent.getD 0)
  magnitude.map fun x => if n.negative then -x else x

end DiskHealth.Decimal
