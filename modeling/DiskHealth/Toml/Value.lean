import DiskHealth.Keyed

/-!
TOML values and the rules by which keys build tables. A table remembers how it was made, since that
decides what may still be added to it: an inline table is complete, a header may define a table that
so far was only on the way of other headers, and dotted keys may not add to a table with a header of
its own. A table on the way of a header becomes one that dotted keys made once they add to it.
-/

namespace DiskHealth.Toml

/-- How a table was made. -/
inductive Making where
  /-- By a header of its own, or as an element of an array of tables; or it is the root. -/
  | header
  /-- On the way of a header to another table. -/
  | way
  /-- On the way of a dotted key to its value. -/
  | dotted
  /-- Between braces. -/
  | inline
  deriving DecidableEq, Repr

/-- How a table counts as made once a path leads through it. -/
def Making.afterPath (isDotted : Bool) (making : Making) : Making :=
  if isDotted then .dotted else making

/-- A TOML value. -/
inductive Value where
  | text (s : String)
  | integer (w : Int64)
  | real (x : Float)
  | boolean (b : Bool)
  /-- A date, a time or both, in their standard spelling. -/
  | moment (s : String)
  | array (items : List Value)
  /-- A list of tables, each begun by a header. -/
  | tables (items : List Value)
  | table (making : Making) (members : List (String × Value))

instance : Inhabited Value := ⟨.boolean false⟩

/-- Keys with their values, each key once. -/
abbrev Members := List (String × Value)

namespace Members

open Keyed (find? put)

/-- A change of the members of a table, refused where it breaks a rule. -/
abbrev Change := Making → Members → Option Members

/-- A change in the table at a path below another. Tables that are not there are made; an array of
tables stands for its last one. A dotted path leads through no table that a header made, and the
others count as its own from then on. -/
def alter (isDotted : Bool) (change : Change) : List String → Change
  | [], making, members => change making members
  | key :: path, _, members =>
    let below (making : Making) (inner : Members) : Option Value :=
      (alter isDotted change path making inner).map (Value.table making)
    match find? key members with
    | none => (below (if isDotted then .dotted else .way) []).map (put key · members)
    | some (.table .inline _) => none
    | some (.table making inner) =>
      if isDotted && making == .header then none
      else (below (making.afterPath isDotted) inner).map (put key · members)
    | some (.tables items) =>
      match items.reverse with
      | .table making inner :: before =>
        (below making inner).map fun last => put key (.tables (before.reverse ++ [last])) members
      | _ => none
    | some _ => none

/-- Gives a key its value. A dotted key does not end in a table that a header made, and no key is
given a value twice. -/
def assign (path : List String) (key : String) (value : Value) : Change :=
  alter true (fun making members =>
    if making = .header ∧ path ≠ [] then none
    else if (find? key members).isSome then none
    else some (members ++ [(key, value)])) path

/-- Defines the table of a header, which may have been on the way of another, but not more. -/
def define (path : List String) (key : String) : Change :=
  alter false (fun _ members =>
    match find? key members with
    | none => some (members ++ [(key, .table .header [])])
    | some (.table .way inner) => some (put key (.table .header inner) members)
    | some _ => none) path

/-- Begins one more table of an array of tables. -/
def begin (path : List String) (key : String) : Change :=
  alter false (fun _ members =>
    match find? key members with
    | none => some (members ++ [(key, .tables [.table .header []])])
    | some (.tables items) => some (put key (.tables (items ++ [.table .header []])) members)
    | some _ => none) path

end Members

end DiskHealth.Toml
