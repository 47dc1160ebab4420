import DiskHealth.Text.Utf8

/-!
The heads of CBOR items. A head has a major type in three bits and an argument: in the other five
bits if it is below 24, else in the one, two, four or eight bytes that follow, high byte first.
Heads are written as short as they go, and read in any length. The argument 31 opens a container
without a length, which a break byte ends.
-/

namespace DiskHealth.Cbor

namespace Major

def unsigned : Nat := 0

/-- Integers below zero; the argument `n` stands for `-1 - n`. -/
def negative : Nat := 1

def bytes : Nat := 2

def text : Nat := 3

def array : Nat := 4

/-- Lists of keys with their values. -/
def map : Nat := 5

/-- Numbers that qualify the next item. -/
def tag : Nat := 6

end Major

/-- The bytes of a number, high byte first. -/
def bigEndian : (count : Nat) → Nat → List UInt8
  | 0, _ => []
  | count + 1, n => bigEndian count (n / 256) ++ [n.toUInt8]

/-- The number of some bytes, high byte first, after bytes of value `high`. -/
def ofBigEndian (high : Nat) (bytes : List UInt8) : Nat :=
  bytes.foldl (fun n b => 256 * n + b.toNat) high

def leadByte (major info : Nat) : UInt8 :=
  (32 * major + info).toUInt8

/-- The shortest head of a major type and an argument below `2 ^ 64`. -/
def head (major n : Nat) : List UInt8 :=
  if n < 24 then [leadByte major n]
  else if n < 0x100 then leadByte major 24 :: bigEndian 1 n
  else if n < 0x10000 then leadByte major 25 :: bigEndian 2 n
  else if n < 0x100000000 then leadByte major 26 :: bigEndian 4 n
  else leadByte major 27 :: bigEndian 8 n

/-- The byte that ends a container without a length. -/
def breakByte : UInt8 := 0xFF

def nullByte : UInt8 := 0xF6

/-- The argument of a head. -/
inductive Argument where
  | number (n : Nat)
  /-- The mark of a container or string without a length. -/
  | indefinite
  deriving DecidableEq, Repr

/-- The first `count` bytes, and the rest. -/
def takeBytes (count : Nat) (bytes : List UInt8) : Option (List UInt8 × List UInt8) :=
  if bytes.length < count then none else some (bytes.take count, bytes.drop count)

/-- The number in the first `count` bytes. -/
def readNumber (count : Nat) (bytes : List UInt8) : Option (Argument × List UInt8) :=
  (takeBytes count bytes).map fun r => (.number (ofBigEndian 0 r.1), r.2)

/-- The argument that five bits announce. -/
def readArgument (info : Nat) (bytes : List UInt8) : Option (Argument × List UInt8) :=
  if info < 24 then some (.number info, bytes)
  else if info = 24 then readNumber 1 bytes
  else if info = 25 then readNumber 2 bytes
  else if info = 26 then readNumber 4 bytes
  else if info = 27 then readNumber 8 bytes
  else if info = 31 then some (.indefinite, bytes)
  else none

/-- The major type and the argument of an item. -/
def readHead : List UInt8 → Option (Nat × Argument × List UInt8)
  | [] => none
  | b :: rest =>
    (readArgument (b.toNat % 32) rest).map fun r => (b.toNat / 32, r.1, r.2)

/-- The argument of an item of one major type. -/
def readMajor (major : Nat) (bytes : List UInt8) : Option (Argument × List UInt8) :=
  match readHead bytes with
  | some (found, argument, rest) => if found = major then some (argument, rest) else none
  | none => none

def readInt (input : List UInt8) : Option (Int × List UInt8) :=
  match readHead input with
  | some (major, .number n, rest) =>
    if major = Major.unsigned then some (n, rest)
    else if major = Major.negative then some (-1 - (n : Int), rest)
    else none
  | _ => none

/-- The bytes of an integer of at most 64 bits and a sign. -/
def writeInt (n : Int) : List UInt8 :=
  if n < 0 then head Major.negative (-1 - n).toNat else head Major.unsigned n.toNat

/-- The string in an item. Only strings with a length are taken. -/
def readText (input : List UInt8) : Option (String × List UInt8) := do
  let (argument, rest) ← readMajor Major.text input
  match argument with
  | .indefinite => none
  | .number n =>
    let (bytes, rest) ← takeBytes n rest
    let s ← Text.Utf8.toString? bytes
    return (s, rest)

def writeText (s : String) : List UInt8 :=
  let bytes := Text.Utf8.ofString s
  head Major.text bytes.length ++ bytes

end DiskHealth.Cbor
