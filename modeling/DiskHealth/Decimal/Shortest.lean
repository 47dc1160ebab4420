/-!
The shortest decimal that reads back as a given double. The reals that round to the double
`m * 2 ^ q` form an interval around it, whose ends belong to it exactly if `m` is even. Among the
decimal grids `10 ^ e`, from coarse to fine, the first with a point in the interval gives the fewest
digits; of two points of that grid the one nearer to the double counts. Of two that are equally near
some writers take the even one, others the greater one.
-/

namespace DiskHealth.Decimal

/-- Which of two decimals counts that are equally near to a double. -/
inductive Tie where
  /-- The one whose last digit is even. -/
  | even
  /-- The one that is farther from zero. -/
  | greater
  deriving DecidableEq, Repr

/-- The one that counts of `n` and `n + 1`. -/
def Tie.choose : Tie → Nat → Nat
  | .even, n => n + n % 2
  | .greater, n => n + 1

/-- The reals that round to a double, as quotients by `den`. -/
structure Interval where
  low : Nat
  value : Nat
  high : Nat
  /-- The denominator of all three. -/
  den : Nat
  /-- Whether the ends belong to the interval. -/
  closed : Bool

/-- The interval of the double `m * 2 ^ q`. Below a power of two the next double is half as far. -/
def Interval.of (m : Nat) (q : Int) : Interval :=
  let num := Nat.pow 2 (q - 2).toNat
  let below := if m = 0x10000000000000 ∧ -1074 < q then 1 else 2
  { low := (4 * m - below) * num
    value := 4 * m * num
    high := (4 * m + 2) * num
    den := Nat.pow 2 (2 - q).toNat
    closed := m % 2 == 0 }

/-- Whether `d * 10 ^ e` belongs to an interval. -/
def Interval.holds (i : Interval) (d : Nat) (e : Int) : Bool :=
  let point := d * Nat.pow 10 e.toNat * i.den
  let scale := Nat.pow 10 (-e).toNat
  if i.closed then i.low * scale ≤ point && point ≤ i.high * scale
  else i.low * scale < point && point < i.high * scale

/-- The point of the grid `10 ^ e` that lies in an interval and is nearest to its double. -/
def Interval.gridPoint? (i : Interval) (tie : Tie) (e : Int) : Option Nat :=
  let num := i.value * Nat.pow 10 (-e).toNat
  let den := i.den * Nat.pow 10 e.toNat
  let below := num / den
  let rest := 2 * (num % den)
  match i.holds below e, i.holds (below + 1) e with
  | false, false => none
  | true, false => some below
  | false, true => some (below + 1)
  | true, true =>
    if rest < den then some below
    else if den < rest then some (below + 1)
    else some (tie.choose below)

/-- The first hit on the grids from `10 ^ e` downwards, `steps` of them. -/
def Interval.search (i : Interval) (tie : Tie) (e : Int) : (steps : Nat) → Nat × Int
  | 0 => (0, 0)
  | steps + 1 =>
    match i.gridPoint? tie e with
    | some d => (d, e)
    | none => i.search tie (e - 1) steps

/-- A power of ten above `m * 2 ^ q`, given by its exponent. -/
def tenAbove (m : Nat) (q : Int) : Int :=
  (Nat.log2 m + q) * 30103 / 100000 + 2

/-- The digits `d` and the exponent `e` of the shortest decimal `d * 10 ^ e` that reads back as the
double `m * 2 ^ q`, for a positive `m`. Seventeen digits always suffice. -/
def shortest (tie : Tie) (m : Nat) (q : Int) : Nat × Int :=
  (Interval.of m q).search tie (tenAbove m q) 22

end DiskHealth.Decimal
