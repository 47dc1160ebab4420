import DiskHealth.Baseline
import DiskHealth.Cbor.Form
import DiskHealth.Outcome

/-!
The CBOR forms of the library's records. A section is a record around its map, a baseline the bare
map, and a verdict its bare number.
-/

namespace DiskHealth.Cbor

instance : Form NormalizedPair where
  encode p := writeRecord 2 (encode p.value ++ encode p.threshold)
  decode input := do
    let (left, rest) ← openRecord input
    let (value, left, rest) ← readField left rest
    let (threshold, left, rest) ← readField left rest
    return (⟨value, threshold⟩, ← closeRecord left rest)

instance : Form Reading where
  encode r :=
    match r.reallocatedEvents with
    | none => writeRecord 1 (encode r.attributes)
    | some pair => writeRecord 2 (encode r.attributes ++ encode pair)
  decode input := do
    let (left, rest) ← openRecord input
    let (attributes, left, rest) ← readField left rest
    let (pair, left, rest) ← readField? (α := Option NormalizedPair) left rest
    return (⟨attributes, pair.join⟩, ← closeRecord left rest)

instance : Form Metric where
  encode m := writeRecord 2 (encode m.name ++ encode m.value)
  decode input := do
    let (left, rest) ← openRecord input
    let (name, left, rest) ← readField left rest
    let (value, left, rest) ← readField left rest
    return (⟨name, value⟩, ← closeRecord left rest)

instance : Form Verdict where
  encode
    | .normal => writeInt 0
    | .critical => writeInt 1
  decode input :=
    (readInt input).bind fun r =>
      if r.1 = 0 then some (.normal, r.2) else if r.1 = 1 then some (.critical, r.2) else none

def encodeSection (s : Section) : List UInt8 :=
  writeRecord 1 (encode s)

/-- The section at the front of some bytes, and the rest. -/
def decodeSection (input : List UInt8) : Option (Section × List UInt8) := do
  let (left, rest) ← openRecord input
  let (readings, left, rest) ← readField (α := SortedMap Reading) left rest
  return (readings, ← closeRecord left rest)

end DiskHealth.Cbor
