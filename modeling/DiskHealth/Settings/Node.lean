import DiskHealth.Decimal.Number
import DiskHealth.Keyed
import DiskHealth.Numeral
import DiskHealth.Toml.Value

/-!
Trees of settings, as their layers give them, before the types of the settings are known. A layer is
laid over those before it: tables are merged key by key, and anything else takes the place of what
was there. A text is asked of a tree in the end, and booleans and numbers count as texts.
-/

namespace DiskHealth.Settings

/-- A tree of settings. -/
inductive Node where
  /-- Nothing, in the place of an item that was never set. -/
  | absent
  | text (s : String)
  | integer (w : Int64)
  | real (x : Float)
  | boolean (b : Bool)
  | list (items : List Node)
  | table (members : List (String × Node))

namespace Node

instance : Inhabited Node := ⟨absent⟩

mutual

def ofToml : Toml.Value → Node
  | .text s => text s
  | .integer w => integer w
  | .real x => real x
  | .boolean b => boolean b
  | .moment s => text s
  | .array items => list (ofItems items)
  | .tables items => list (ofItems items)
  | .table _ members => table (ofMembers members)

/-- The trees of the items of a list. -/
def ofItems : List Toml.Value → List Node
  | [] => []
  | v :: vs => ofToml v :: ofItems vs

/-- The trees of the members of a table. -/
def ofMembers : List (String × Toml.Value) → List (String × Node)
  | [] => []
  | m :: ms => (m.1, ofToml m.2) :: ofMembers ms

end

/-- The members of a table, none of anything else. -/
def members : Node → List (String × Node)
  | table members => members
  | _ => []

/-- The items of a list, none of anything else. -/
def items : Node → List Node
  | list items => items
  | _ => []

mutual

def laidOver : Node → Node → Node
  | table upper, lower => table (laidMembers upper lower.members)
  | upper, _ => upper

/-- The members of a table laid over those of another. -/
def laidMembers : List (String × Node) → List (String × Node) → List (String × Node)
  | [], lower => lower
  | m :: upper, lower =>
    laidMembers upper (Keyed.put m.1 (laidOver m.2 ((Keyed.find? m.1 lower).getD absent)) lower)

end

/-- The layout of numbers as texts: never an exponent, and a point only before a fraction. -/
def numberLayout : Decimal.Layout :=
  ⟨fun _ => true, false, .greater⟩

/-- The text of a floating-point number. -/
def realText (x : Float) : String :=
  match Decimal.Binary64.ofFloat x with
  | .nan => "NaN"
  | .infinite negative => if negative then "-inf" else "inf"
  | .finite negative m q => String.ofList (numberLayout.finite negative m q).write

/-- The text of a tree that is one, or can be taken for one. -/
def text? : Node → Option String
  | text s => some s
  | integer w => some (Numeral.ofWord w)
  | real x => some (realText x)
  | boolean b => some (if b then "true" else "false")
  | _ => none

/-- The trees of the fields of a record, which are found in a table by name or in a list by
place. -/
def fields? (names : List String) : Node → Option (List Node)
  | table members => names.mapM (Keyed.find? · members)
  | list items => if names.length ≤ items.length then some (items.take names.length) else none
  | _ => none

end Node

end DiskHealth.Settings
