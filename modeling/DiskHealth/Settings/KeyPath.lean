import DiskHealth.Settings.Node

/-!
Key paths, which name a place in a tree of settings: a key, followed by keys after points and by
positions in brackets. A position below zero counts from the end of a list. Setting a place makes
all that is missing on the way.
-/

namespace DiskHealth.Settings

/-- One step down a tree. -/
inductive Step where
  /-- To the value of a key. -/
  | key (name : String)
  /-- To the item at a position. -/
  | position (n : Int)
  deriving DecidableEq, Repr

/-- A place in a tree. -/
structure KeyPath where
  first : String
  steps : List Step := []
  deriving DecidableEq, Repr

namespace KeyPath

/-- The characters of keys in paths. -/
def isKeyChar (c : Char) : Bool :=
  c.isAlphanum || c == '_' || c == '-'

/-- The characters that may stand around a position. -/
def isSpace (c : Char) : Bool :=
  c == ' ' || c == '\t'

/-- A position in brackets after the opening one, and the rest. -/
def readPosition (cs : List Char) : Option (Int × List Char) := do
  let cs := cs.dropWhile isSpace
  let sign := cs.takeWhile (· == '-')
  let digits := (cs.drop sign.length).takeWhile Char.isDigit
  let n ← Numeral.read? 10 (sign ++ digits)
  let ']' :: rest := (cs.drop (sign.length + digits.length)).dropWhile isSpace | none
  return (n.toInt, rest)

/-- The steps after the first key; `fuel` bounds their number. -/
def readSteps : (fuel : Nat) → List Char → Option (List Step)
  | _, [] => some []
  | 0, _ => none
  | fuel + 1, '.' :: rest =>
    match rest.takeWhile isKeyChar with
    | [] => none
    | name => (readSteps fuel (rest.drop name.length)).map (.key (String.ofList name) :: ·)
  | fuel + 1, '[' :: rest =>
    (readPosition rest).bind fun (n, rest) => (readSteps fuel rest).map (.position n :: ·)
  | _, _ => none

def read? (s : String) : Option KeyPath :=
  match s.toList.takeWhile isKeyChar with
  | [] => none
  | name =>
    (readSteps s.length (s.toList.drop name.length)).map (KeyPath.mk (String.ofList name))

/-- The path of a text, which is a plain key if it spells none. -/
def ofText (s : String) : KeyPath :=
  (read? s).getD ⟨s, []⟩

/-- The items of a list with one more or fewer in front, so that a position is among them, and the
index of the position. -/
def reach (n : Int) (items : List Node) : List Node × Nat :=
  if 0 ≤ n then (items ++ List.replicate (n.toNat + 1 - items.length) .absent, n.toNat)
  else if n.natAbs ≤ items.length then (items, items.length - n.natAbs)
  else (List.replicate (n.natAbs - items.length) .absent ++ items, 0)

/-- A tree with a change at the place some steps down. -/
def change (f : Node → Node) : List Step → Node → Node
  | [], node => f node
  | .key name :: steps, node =>
    let below := (Keyed.find? name node.members).getD .absent
    .table (Keyed.put name (change f steps below) node.members)
  | .position n :: steps, node =>
    let (items, index) := reach n node.items
    .list (items.modify index (change f steps))

/-- A tree with a value laid over what is at a place. -/
def set (path : KeyPath) (value : Node) (tree : Node) : Node :=
  change (value.laidOver ·) (.key path.first :: path.steps) tree

end KeyPath

end DiskHealth.Settings
