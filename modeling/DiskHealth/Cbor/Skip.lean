import DiskHealth.Cbor.Item

/-!
Skipping of items that nobody asked for. Containers are not followed but counted: a container with a
length adds its items to the number still to come, one without a length adds a break. Only where a
container without a length stands among other items is the count of those set aside.
-/

namespace DiskHealth.Cbor

/-- What is still to come before an item is over. -/
structure Pending where
  items : Nat
  breaks : Nat
  /-- What was set aside, innermost first: a number of items, or a break. -/
  outer : List (Option Nat)
  deriving DecidableEq, Repr

namespace Pending

/-- Whether no count is running, so that the innermost container set aside is being read. -/
def isSettled (p : Pending) : Bool :=
  p.items == 0 && p.breaks == 0

/-- Whether nothing is still to come. -/
def isOver (p : Pending) : Bool :=
  p.isSettled && p.outer.isEmpty

/-- After the head of a container of `n` items. -/
def openCounted (p : Pending) (n : Nat) : Pending :=
  if p.isSettled then { p with outer := some n :: p.outer } else { p with items := p.items + n }

/-- After the head of a container that a break ends. -/
def openUncounted (p : Pending) : Pending :=
  if p.isSettled then { p with outer := none :: p.outer }
  else if p.items < 2 then { p with breaks := p.breaks + 1 }
  else
    { items := 0
      breaks := 0
      outer := none :: some (p.items - 1) :: (List.replicate p.breaks none ++ p.outer) }

def closeUncounted (p : Pending) : Pending :=
  if p.isSettled then
    match p.outer with
    | none :: outer => { p with outer }
    | _ => p
  else { p with breaks := p.breaks - 1 }

/-- Without the containers that have no items left, and one item less in the innermost other. -/
def settle : List (Option Nat) → List (Option Nat)
  | some 0 :: outer => settle outer
  | some (n + 1) :: outer => some n :: outer
  | outer => outer

def countItem (p : Pending) : Pending :=
  if p.isSettled then { p with outer := settle p.outer } else { p with items := p.items - 1 }

end Pending

/-- The chunks of a string without a length, up to its break; `isFine` judges each. -/
def skipChunks (major : Nat) (isFine : List UInt8 → Bool) :
    (fuel : Nat) → List UInt8 → Option (List UInt8)
  | 0, _ => none
  | fuel + 1, input =>
    match input with
    | [] => none
    | b :: rest =>
      if b = breakByte then some rest
      else
        match readMajor major input with
        | some (.number n, rest) =>
          match takeBytes n rest with
          | some (chunk, rest) => if isFine chunk then skipChunks major isFine fuel rest else none
          | none => none
        | _ => none

def skipString (major : Nat) (isFine : List UInt8 → Bool) (input : List UInt8) :
    Option (List UInt8) :=
  match readMajor major input with
  | some (.number n, rest) =>
    match takeBytes n rest with
    | some (chunk, rest) => if isFine chunk then some rest else none
    | none => none
  | some (.indefinite, rest) => skipChunks major isFine rest.length rest
  | none => none

/-- The rest after one head, or after a string, with what is still to come then; nothing if no item
begins there. The flag says whether an item ended. -/
def skipHead (p : Pending) (input : List UInt8) : Option (Pending × Bool × List UInt8) :=
  match input with
  | [] => none
  | b :: after =>
    if b = breakByte then some (p.closeUncounted, true, after)
    else
      match readHead input with
      | none => none
      | some (major, argument, rest) =>
        if major = Major.bytes then
          (skipString Major.bytes (fun _ => true) input).map (p, true, ·)
        else if major = Major.text then
          (skipString Major.text (fun chunk => (Text.Utf8.decode chunk).isSome) input).map
            (p, true, ·)
        else if major = Major.array then
          match argument with
          | .number n => some (p.openCounted n, true, rest)
          | .indefinite => some (p.openUncounted, true, rest)
        else if major = Major.map then
          match argument with
          | .number n => some (p.openCounted (2 * n), true, rest)
          | .indefinite => some (p.openUncounted, true, rest)
        else
          match argument with
          | .number _ => some (p, major != Major.tag, rest)
          | .indefinite => none

/-- The rest after all that is still to come. -/
def skipPending : (fuel : Nat) → Pending → List UInt8 → Option (List UInt8)
  | 0, p, input => if p.isOver then some input else none
  | fuel + 1, p, input =>
    if p.isOver then some input
    else
      match skipHead p input with
      | none => none
      | some (p, ended, rest) => skipPending fuel (if ended then p.countItem else p) rest

def skipItem (input : List UInt8) : Option (List UInt8) :=
  skipPending input.length ⟨1, 0, []⟩ input

end DiskHealth.Cbor
