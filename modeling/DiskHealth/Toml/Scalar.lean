import DiskHealth.Numeral
import DiskHealth.Toml.Value

/-!
Values of TOML without quotes and brackets: booleans, integers in four radixes, floating-point
numbers, and dates and times. Underscores may part digits. Dates and times are checked against the
calendar and kept in their standard spelling.
-/

namespace DiskHealth.Toml

/-- The characters of an unquoted value. -/
def isScalarChar (c : Char) : Bool :=
  c.isAlphanum || c == '+' || c == '-' || c == '_' || c == '.' || c == ':'

/-- Digits without the underscores between them; each must stand between two digits. -/
def withoutMarks (radix : Nat) : List Char → Option (List Char)
  | [] => none
  | [c] => (Numeral.digit? radix c).map fun _ => [c]
  | c :: '_' :: rest => do
    let _ ← Numeral.digit? radix c
    return c :: (← withoutMarks radix rest)
  | c :: rest => do
    let _ ← Numeral.digit? radix c
    return c :: (← withoutMarks radix rest)

/-- Whether a text is the decimal spelling of a whole number, without zeros in front. -/
def isWhole : List Char → Bool
  | '0' :: _ :: _ => false
  | _ => true

/-- The value of a whole number in decimal digits, with marks. -/
def whole? (cs : List Char) : Option Nat := do
  let digits ← withoutMarks 10 cs
  if isWhole digits then Numeral.natural? 10 digits else none

def splitSign : List Char → Bool × List Char
  | '-' :: rest => (true, rest)
  | '+' :: rest => (false, rest)
  | cs => (false, cs)

/-- The value of an integer: decimal with a sign, or in another radix without one. -/
def integer? : List Char → Option Int
  | '0' :: 'x' :: rest => natural 16 rest
  | '0' :: 'o' :: rest => natural 8 rest
  | '0' :: 'b' :: rest => natural 2 rest
  | cs =>
    let (negative, digits) := splitSign cs
    (whole? digits).map fun n => if negative then -(n : Int) else n
where
  /-- The value of digits without a sign. -/
  natural (radix : Nat) (cs : List Char) : Option Int := do
    let digits ← withoutMarks radix cs
    let n ← Numeral.natural? radix digits
    return n

/-- The value of an exponent of ten, with its sign. -/
def exponent? (cs : List Char) : Option Int := do
  let (negative, digits) := splitSign cs
  let n ← (withoutMarks 10 digits).bind (Numeral.natural? 10)
  return if negative then -(n : Int) else n

/-- The double nearest to `n * 10 ^ e`. -/
def toFloat (n : Nat) (e : Int) : Float :=
  if n = 0 then 0
  else if e < 0 then OfScientific.ofScientific n true e.natAbs
  else OfScientific.ofScientific n false e.natAbs

/-- The largest exponent of ten that can matter. -/
def largestExponent : Int := 100000

/-- The value of a floating-point number without its sign, if it has a point or an exponent. -/
def magnitude? (cs : List Char) : Option Float := do
  let isExponent (c : Char) : Bool := c == 'e' || c == 'E'
  let mantissa := cs.takeWhile fun c => !isExponent c
  let rest := cs.drop mantissa.length
  let e ← match rest with
    | [] => some 0
    | _ :: digits => exponent? digits
  let before := mantissa.takeWhile (· != '.')
  let _ ← whole? before
  let before ← withoutMarks 10 before
  let after ← match mantissa.drop (mantissa.takeWhile (· != '.')).length with
    | [] => if rest.isEmpty then none else some []
    | _ :: digits => withoutMarks 10 digits
  let n ← Numeral.natural? 10 (before ++ after)
  let e := max (-largestExponent) (min largestExponent e)
  let x := toFloat n (e - after.length)
  if x.isInf then none else some x

/-- The value of a floating-point number. -/
def real? (cs : List Char) : Option Float :=
  let (negative, rest) := splitSign cs
  let found := match rest with
    | ['i', 'n', 'f'] => some (1 / 0)
    | ['n', 'a', 'n'] => some (0 / 0)
    | rest => magnitude? rest
  found.map fun x => if negative then -x else x

/-- A number of exactly so many digits, and the rest. -/
def fixed? (count : Nat) (cs : List Char) : Option (Nat × List Char) :=
  let digits := cs.take count
  if digits.length = count then
    (Numeral.natural? 10 digits).map (·, cs.drop count)
  else none

def daysIn (year month : Nat) : Nat :=
  if month = 2 then
    if year % 4 = 0 ∧ (year % 100 ≠ 0 ∨ year % 400 = 0) then 29 else 28
  else if month = 4 ∨ month = 6 ∨ month = 9 ∨ month = 11 then 30
  else 31

def skipDate (cs : List Char) : Option (List Char) := do
  let (year, cs) ← fixed? 4 cs
  let '-' :: cs := cs | none
  let (month, cs) ← fixed? 2 cs
  let '-' :: cs := cs | none
  let (day, cs) ← fixed? 2 cs
  if 1 ≤ month ∧ month ≤ 12 ∧ 1 ≤ day ∧ day ≤ daysIn year month then some cs else none

/-- The rest after hours and minutes. -/
def skipClock (cs : List Char) : Option (List Char) := do
  let (hour, cs) ← fixed? 2 cs
  let ':' :: cs := cs | none
  let (minute, cs) ← fixed? 2 cs
  if hour ≤ 23 ∧ minute ≤ 59 then some cs else none

/-- The most digits of a fraction of a second that count. -/
def fractionDigits : Nat := 9

/-- A fraction of a second without the zeros at its end, but of one digit at least. -/
def shownFraction (digits : List Char) : List Char :=
  match ((digits.take fractionDigits).reverse.dropWhile (· == '0')).reverse with
  | [] => ['.', '0']
  | shown => '.' :: shown

/-- The standard spelling of the seconds of a time, which may be missing, and the rest. -/
def readSeconds : List Char → Option (List Char × List Char)
  | ':' :: cs => do
    let (second, rest) ← fixed? 2 cs
    if 60 < second then none
    else
      match rest with
      | '.' :: rest =>
        let digits := rest.takeWhile Char.isDigit
        if digits.isEmpty then none
        else some (':' :: cs.take 2 ++ shownFraction digits, rest.drop digits.length)
      | rest => some (':' :: cs.take 2, rest)
  | cs => some ([], cs)

/-- The standard spelling of a time of the day, and the rest. -/
def readTime (cs : List Char) : Option (List Char × List Char) := do
  let rest ← skipClock cs
  let (seconds, after) ← readSeconds rest
  return (cs.take 5 ++ seconds, after)

/-- The standard spelling of an offset from universal time, which may be missing. -/
def offset? : List Char → Option (List Char)
  | [] => some []
  | ['Z'] => some ['Z']
  | ['z'] => some ['Z']
  | sign :: cs =>
    if sign = '+' ∨ sign = '-' then
      match skipClock cs with
      | some [] => some ((if cs = ['0', '0', ':', '0', '0'] then '+' else sign) :: cs)
      | _ => none
    else none

/-- The standard spelling of a date, a time or both. -/
def moment? (cs : List Char) : Option (List Char) :=
  match skipDate cs with
  | some [] => some cs
  | some (mark :: rest) =>
    if mark = 'T' ∨ mark = 't' ∨ mark = ' ' then do
      let (time, after) ← readTime rest
      return cs.take 10 ++ 'T' :: time ++ (← offset? after)
    else none
  | none =>
    match readTime cs with
    | some (time, []) => some time
    | _ => none

def scalar? (cs : List Char) : Option Value :=
  match cs with
  | ['t', 'r', 'u', 'e'] => some (.boolean true)
  | ['f', 'a', 'l', 's', 'e'] => some (.boolean false)
  | _ =>
    match moment? cs, integer? cs with
    | some shown, _ => some (.moment (String.ofList shown))
    | none, some n => (Numeral.word? n).map .integer
    | none, none => (real? cs).map .real

/-- An unquoted value, and the rest. A date may be parted from its time by a space. -/
def readScalar (cs : List Char) : Option (Value × List Char) :=
  let first := cs.takeWhile isScalarChar
  let rest := cs.drop first.length
  match skipDate first, rest with
  | some [], ' ' :: d :: after =>
    if d.isDigit then
      let second := (d :: after).takeWhile isScalarChar
      (scalar? (first ++ ' ' :: second)).map (·, (d :: after).drop second.length)
    else (scalar? first).map (·, rest)
  | _, _ => (scalar? first).map (·, rest)

end DiskHealth.Toml
