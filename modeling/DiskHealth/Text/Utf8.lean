/-!
UTF-8: the bytes of a text, and the text of bytes, if they are well formed. A sequence is as short
as its code point allows and stands for no surrogate and nothing beyond the last code point, so
every text has exactly one encoding. `decodeLossy` puts a replacement character for each faulty
part.
-/

namespace DiskHealth.Text.Utf8

def encodeChar (c : Char) : List UInt8 :=
  let n := c.toNat
  if n < 0x80 then [n.toUInt8]
  else if n < 0x800 then [(0xC0 + n / 0x40).toUInt8, (0x80 + n % 0x40).toUInt8]
  else if n < 0x10000 then
    [(0xE0 + n / 0x1000).toUInt8, (0x80 + n / 0x40 % 0x40).toUInt8, (0x80 + n % 0x40).toUInt8]
  else
    [(0xF0 + n / 0x40000).toUInt8, (0x80 + n / 0x1000 % 0x40).toUInt8,
      (0x80 + n / 0x40 % 0x40).toUInt8, (0x80 + n % 0x40).toUInt8]

def encode (cs : List Char) : List UInt8 :=
  cs.flatMap encodeChar

/-- Whether a byte continues a sequence. -/
def isContinuation (b : UInt8) : Bool :=
  0x80 ≤ b && b < 0xC0

/-- Whether a byte may be the second of a sequence that `lead` begins. It keeps the sequence from
being too long for its code point, a surrogate, or beyond the last code point. -/
def isSecond (lead b : UInt8) : Bool :=
  if lead = 0xE0 then 0xA0 ≤ b && b < 0xC0
  else if lead = 0xED then 0x80 ≤ b && b < 0xA0
  else if lead = 0xF0 then 0x90 ≤ b && b < 0xC0
  else if lead = 0xF4 then 0x80 ≤ b && b < 0x90
  else isContinuation b

/-- The six bits that a byte adds to a sequence. -/
def bits (b : UInt8) : Nat :=
  b.toNat % 0x40

/-- The text of bytes, if they are well formed. -/
def decode : List UInt8 → Option (List Char)
  | [] => some []
  | a :: rest =>
    if a < 0x80 then (decode rest).map (Char.ofNat a.toNat :: ·)
    else if a < 0xC2 then none
    else if a < 0xE0 then
      match rest with
      | b :: rest =>
        if isContinuation b then
          (decode rest).map (Char.ofNat ((a.toNat - 0xC0) * 0x40 + bits b) :: ·)
        else none
      | _ => none
    else if a < 0xF0 then
      match rest with
      | b :: c :: rest =>
        if isSecond a b && isContinuation c then
          (decode rest).map
            (Char.ofNat ((a.toNat - 0xE0) * 0x1000 + bits b * 0x40 + bits c) :: ·)
        else none
      | _ => none
    else if a < 0xF5 then
      match rest with
      | b :: c :: d :: rest =>
        if isSecond a b && isContinuation c && isContinuation d then
          (decode rest).map
            (Char.ofNat
              ((a.toNat - 0xF0) * 0x40000 + bits b * 0x1000 + bits c * 0x40 + bits d) :: ·)
        else none
      | _ => none
    else none

/-- How many continuation bytes a byte asks for, if it can begin a sequence of more than one. -/
def wanted (lead : UInt8) : Nat :=
  if lead < 0xC2 then 0 else if lead < 0xE0 then 1 else if lead < 0xF0 then 2
  else if lead < 0xF5 then 3 else 0

/-- How many of the bytes after `lead` belong to its sequence, whole or broken off. -/
def belonging (lead : UInt8) (rest : List UInt8) : Nat :=
  match wanted lead, rest with
  | 0, _ => 0
  | _, [] => 0
  | more + 1, b :: rest =>
    if isSecond lead b then 1 + ((rest.take more).takeWhile isContinuation).length else 0

/-- The character that stands for bytes that are not well formed. -/
def replacement : Char := '\uFFFD'

/-- The text of bytes, with a replacement character for every sequence that is broken off and every
byte that begins none. -/
def decodeLossy : (fuel : Nat) → List UInt8 → List Char
  | 0, _ => []
  | _, [] => []
  | fuel + 1, a :: rest =>
    let count := belonging a rest
    ((decode (a :: rest.take count)).getD [replacement]) ++ decodeLossy fuel (rest.drop count)

/-- The text of a string's bytes is the string. -/
def ofString (s : String) : List UInt8 :=
  encode s.toList

/-- The string of bytes, if they are well formed. -/
def toString? (bytes : List UInt8) : Option String :=
  (decode bytes).map String.ofList

end DiskHealth.Text.Utf8
