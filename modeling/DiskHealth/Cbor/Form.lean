import DiskHealth.Cbor.Skip
import DiskHealth.Numeral
import DiskHealth.SortedMap

/-!
CBOR forms of types. A form says how values of a type are written as bytes and read from the front
of bytes. A map is a map item, of whose entries with one key the last counts. A record is an array
item with its fields by position; missing ones at the end are left out, and items after the last
field are skipped.
-/

namespace DiskHealth.Cbor

/-- The CBOR form of a type. -/
class Form (α : Type) where
  /-- The bytes of a value. -/
  encode : α → List UInt8
  /-- The value at the front of some bytes, and the rest. -/
  decode : List UInt8 → Option (α × List UInt8)

export Form (encode decode)

instance : Form Int64 where
  encode w := writeInt w.toInt
  decode input :=
    (readInt input).bind fun r => (Numeral.word? r.1).map fun w => (w, r.2)

instance : Form String where
  encode := writeText
  decode := readText

/-- The bytes of the entries of a map. -/
def writeEntries [Form α] (entries : List (String × α)) : List UInt8 :=
  entries.flatMap fun e => encode e.1 ++ encode e.2

def readEntry [Form α] (input : List UInt8) : Option ((String × α) × List UInt8) :=
  (decode (α := String) input).bind fun (key, rest) =>
    (decode rest).map fun (value, rest) => ((key, value), rest)

def readCounted [Form α] : (count : Nat) → List UInt8 → Option (List (String × α) × List UInt8)
  | 0, input => some ([], input)
  | count + 1, input =>
    (readEntry input).bind fun (e, rest) =>
      (readCounted count rest).map fun (es, rest) => (e :: es, rest)

def readUntilBreak [Form α] : (fuel : Nat) → List UInt8 → Option (List (String × α) × List UInt8)
  | 0, _ => none
  | fuel + 1, input =>
    match input with
    | [] => none
    | b :: after =>
      if b = breakByte then some ([], after)
      else
        (readEntry input).bind fun (e, rest) =>
          (readUntilBreak fuel rest).map fun (es, rest) => (e :: es, rest)

def readEntries [Form α] (input : List UInt8) : Option (List (String × α) × List UInt8) :=
  match readMajor Major.map input with
  | some (.number count, rest) => readCounted count rest
  | some (.indefinite, rest) => readUntilBreak rest.length rest
  | none => none

instance [Form α] : Form (SortedMap α) where
  encode m := head Major.map m.size ++ writeEntries m.toList
  decode input := (readEntries input).map fun r => (.ofList r.1, r.2)

/-- The bytes of a record with `count` fields. -/
def writeRecord (count : Nat) (fields : List UInt8) : List UInt8 :=
  head Major.array count ++ fields

/-- The number of items of a record that are not read yet, nothing if a break ends it. -/
abbrev Left := Option Nat

def openRecord (input : List UInt8) : Option (Left × List UInt8) :=
  (readMajor Major.array input).map fun r =>
    match r.1 with
    | .number n => (some n, r.2)
    | .indefinite => (none, r.2)

/-- A field that the record may be too short for. -/
def readField? [Form α] (left : Left) (input : List UInt8) :
    Option (Option α × Left × List UInt8) :=
  match left with
  | some 0 => some (none, left, input)
  | some (n + 1) => (decode input).map fun r => (some r.1, some n, r.2)
  | none =>
    match input with
    | [] => none
    | b :: _ =>
      if b = breakByte then some (none, left, input)
      else (decode input).map fun r => (some r.1, none, r.2)

def readField [Form α] (left : Left) (input : List UInt8) : Option (α × Left × List UInt8) :=
  match readField? left input with
  | some (some a, left, rest) => some (a, left, rest)
  | _ => none

/-- The rest after a number of items. -/
def skipCounted : (count : Nat) → List UInt8 → Option (List UInt8)
  | 0, input => some input
  | count + 1, input => (skipItem input).bind (skipCounted count)

/-- The rest after items up to a break. -/
def skipUntilBreak : (fuel : Nat) → List UInt8 → Option (List UInt8)
  | 0, _ => none
  | fuel + 1, input =>
    match input with
    | [] => none
    | b :: after =>
      if b = breakByte then some after else (skipItem input).bind (skipUntilBreak fuel)

/-- The end of a record, after items that it has no field for. -/
def closeRecord (left : Left) (input : List UInt8) : Option (List UInt8) :=
  match left with
  | some n => skipCounted n input
  | none => skipUntilBreak input.length input

instance [Form α] : Form (Option α) where
  encode
    | some a => encode a
    | none => [nullByte]
  decode
    | [] => none
    | b :: rest =>
      if b = nullByte then some (none, rest)
      else (decode (b :: rest)).map fun r => (some r.1, r.2)

end DiskHealth.Cbor
