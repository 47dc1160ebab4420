import DiskHealth.Json.Value
import DiskHealth.Numeral

/-!
The reader of JSON text. It takes exactly one value, with white space around it and around its
parts, and nothing that the grammar does not have: no comments, no commas at the end, no leading
zeros.
-/

namespace DiskHealth.Json

open Decimal (Digit Number appendDigits)

def isSpace (c : Char) : Bool :=
  c == ' ' || c == '\t' || c == '\n' || c == '\r'

/-- A text without the white space it begins with. -/
def skipSpace (cs : List Char) : List Char :=
  cs.dropWhile isSpace

/-- The digits that a text begins with, and the rest. -/
def digitRun : List Char → List Digit × List Char
  | [] => ([], [])
  | c :: rest =>
    match Digit.ofChar? c with
    | some d =>
      let (ds, after) := digitRun rest
      (d :: ds, after)
    | none => ([], c :: rest)

/-- The part of a number before its point: a zero, or digits that do not begin with one. -/
def readWhole (cs : List Char) : Option (Nat × List Char) :=
  match digitRun cs with
  | ([], _) => none
  | ([d], rest) => some (d.val, rest)
  | (d :: ds, rest) => if d.val = 0 then none else some (appendDigits d.val ds, rest)

/-- The digits after a point, at least one if the point is there. -/
def readFraction : List Char → Option (List Digit × List Char)
  | '.' :: cs =>
    match digitRun cs with
    | ([], _) => none
    | (ds, rest) => some (ds, rest)
  | cs => some ([], cs)

/-- The digits of an exponent, at least one. -/
def readMagnitude (negative : Bool) (cs : List Char) : Option (Option Int × List Char) :=
  match digitRun cs with
  | ([], _) => none
  | (ds, rest) =>
    let n : Int := appendDigits 0 ds
    some (some (if negative then -n else n), rest)

/-- The exponent of a number, if there is one. -/
def readExponent : List Char → Option (Option Int × List Char)
  | c :: cs =>
    if c = 'e' ∨ c = 'E' then
      match cs with
      | '+' :: cs => readMagnitude false cs
      | '-' :: cs => readMagnitude true cs
      | cs => readMagnitude false cs
    else some (none, c :: cs)
  | [] => some (none, [])

def readUnsigned (negative : Bool) (cs : List Char) : Option (Number × List Char) := do
  let (whole, cs) ← readWhole cs
  let (fraction, cs) ← readFraction cs
  let (exponent, cs) ← readExponent cs
  return (⟨negative, whole, fraction, exponent⟩, cs)

def readNumber : List Char → Option (Number × List Char)
  | '-' :: cs => readUnsigned true cs
  | cs => readUnsigned false cs

/-- The number of four hexadecimal digits. -/
def hexQuad? (a b c d : Char) : Option Nat :=
  Numeral.natural? 16 [a, b, c, d]

/-- The code point of a character escaped by a single letter or mark. -/
def shortEscape? (c : Char) : Option Nat :=
  if c = '"' ∨ c = '\\' ∨ c = '/' then some c.toNat
  else if c = 'b' then some 0x08
  else if c = 'f' then some 0x0C
  else if c = 'n' then some 0x0A
  else if c = 'r' then some 0x0D
  else if c = 't' then some 0x09
  else none

/-- The code points of a literal after its opening quote, and the text after its closing one.
Escaped halves of surrogate pairs are kept as they are. -/
def readPoints : List Char → Option (List Nat × List Char)
  | [] => none
  | '"' :: rest => some ([], rest)
  | '\\' :: 'u' :: a :: b :: c :: d :: rest =>
    (hexQuad? a b c d).bind fun p => (readPoints rest).map fun r => (p :: r.1, r.2)
  | '\\' :: e :: rest =>
    (shortEscape? e).bind fun p => (readPoints rest).map fun r => (p :: r.1, r.2)
  | c :: rest =>
    if c.toNat < 0x20 then none else (readPoints rest).map fun r => (c.toNat :: r.1, r.2)

/-- The first code point of the upper halves of surrogate pairs. -/
def highSurrogate : Nat := 0xD800

/-- The first code point of the lower halves of surrogate pairs. -/
def lowSurrogate : Nat := 0xDC00

/-- The number of code points of either half. -/
def surrogateCount : Nat := 0x400

/-- Whether a code point is in the half of surrogates that begins at `first`. -/
def isSurrogate (first p : Nat) : Bool :=
  first ≤ p && p < first + surrogateCount

/-- The characters of code points, surrogates joined in pairs; nothing if one has no partner. -/
def joinPoints : List Nat → Option (List Char)
  | [] => some []
  | p :: rest =>
    if isSurrogate highSurrogate p then
      match rest with
      | [] => none
      | q :: rest =>
        if isSurrogate lowSurrogate q then
          let joined :=
            0x10000 + (p - highSurrogate) * surrogateCount + (q - lowSurrogate)
          (joinPoints rest).map (Char.ofNat joined :: ·)
        else none
    else if isSurrogate lowSurrogate p then none
    else (joinPoints rest).map (Char.ofNat p :: ·)

/-- A literal after its opening quote. -/
def readText (cs : List Char) : Option (Option String × List Char) :=
  (readPoints cs).map fun r => ((joinPoints r.1).map String.ofList, r.2)

mutual

/-- A value; `fuel` bounds the number of nested calls. -/
def readValue : (fuel : Nat) → List Char → Option (Value × List Char)
  | 0, _ => none
  | fuel + 1, cs =>
    match skipSpace cs with
    | 'n' :: 'u' :: 'l' :: 'l' :: rest => some (.null, rest)
    | 't' :: 'r' :: 'u' :: 'e' :: rest => some (.boolean true, rest)
    | 'f' :: 'a' :: 'l' :: 's' :: 'e' :: rest => some (.boolean false, rest)
    | '"' :: rest => (readText rest).map fun r => (.text r.1, r.2)
    | '[' :: rest =>
      match skipSpace rest with
      | ']' :: rest => some (.array [], rest)
      | rest => (readItems fuel rest).map fun r => (.array r.1, r.2)
    | '{' :: rest =>
      match skipSpace rest with
      | '}' :: rest => some (.object [], rest)
      | rest => (readMembers fuel rest).map fun r => (.object r.1, r.2)
    | cs => (readNumber cs).map fun r => (.number r.1, r.2)

/-- One or more items of an array, and its end. -/
def readItems : (fuel : Nat) → List Char → Option (List Value × List Char)
  | 0, _ => none
  | fuel + 1, cs =>
    (readValue fuel cs).bind fun (v, rest) =>
      match skipSpace rest with
      | ']' :: rest => some ([v], rest)
      | ',' :: rest => (readItems fuel rest).map fun r => (v :: r.1, r.2)
      | _ => none

/-- One or more members of an object, and its end. -/
def readMembers : (fuel : Nat) → List Char → Option (List (Option String × Value) × List Char)
  | 0, _ => none
  | fuel + 1, cs =>
    match skipSpace cs with
    | '"' :: rest =>
      (readText rest).bind fun (k, rest) =>
        match skipSpace rest with
        | ':' :: rest =>
          (readValue fuel rest).bind fun (v, rest) =>
            match skipSpace rest with
            | '}' :: rest => some ([(k, v)], rest)
            | ',' :: rest => (readMembers fuel rest).map fun r => ((k, v) :: r.1, r.2)
            | _ => none
        | _ => none
    | _ => none

end

def read? (cs : List Char) : Option Value :=
  match readValue (2 * cs.length + 1) cs with
  | some (v, rest) => if rest.all isSpace then some v else none
  | none => none

end DiskHealth.Json
