/-!
Quotients of natural numbers, rounded. `roundDiv` gives the nearest whole number, and the even one
of two that are equally near; `toBinary` rounds to the 53 significant bits of a double.
-/

namespace DiskHealth.Decimal

/-- The whole number nearest to `num / den`; halfway between two, the even one. -/
def roundDiv (num den : Nat) : Nat :=
  let low := num / den
  let rest := 2 * (num % den)
  if rest < den then low
  else if den < rest then low + 1
  else if low % 2 = 0 then low
  else low + 1

/-- The number of 53 significant bits nearest to `n`; halfway between two, the even one. -/
def toBinary (n : Nat) : Nat :=
  let unit := Nat.pow 2 (Nat.log2 n - 52)
  roundDiv n unit * unit

end DiskHealth.Decimal
