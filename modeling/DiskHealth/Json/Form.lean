import DiskHealth.Decimal.Scaled
import DiskHealth.Json.Printer
import DiskHealth.Json.Reader
import DiskHealth.SortedMap

/-!
JSON forms of types. A form says how values of a type are written and which JSON values are taken
back. Words take only integers in range, doubles any number; a map takes an object, of whose entries
with one key the last counts; a record takes an object with its fields, each once and in any order
beside unknown ones, or an array of its fields in order.
-/

namespace DiskHealth.Json

/-- The JSON form of a type. -/
class Form (α : Type) where
  encode : α → Value
  /-- The value of a JSON value, if it has the form. -/
  decode : Value → Option α

export Form (encode decode)

/-- The value that a text spells, if it has the form of its type. -/
def parse? [Form α] (text : String) : Option α :=
  (read? text.toList).bind decode

def compactText [Form α] (a : α) : String :=
  (encode a).compact

def prettyText [Form α] (a : α) : String :=
  (encode a).pretty

instance : Form Int64 where
  encode := .ofWord
  decode
    | .number n => n.toInt?.bind Numeral.word?
    | _ => none

instance : Form String where
  encode := .ofString
  decode := Value.string?

/-- The layout of doubles: plain from `1e-5` up to `1e16`, and always with a point. -/
def doubleLayout : Decimal.Layout :=
  ⟨fun leading => -5 ≤ leading && leading < 16, true, .even⟩

/-- A double, or null if it is not finite. -/
def Value.ofFloat (x : Float) : Value :=
  match Decimal.Binary64.ofFloat x with
  | .finite negative m q => .number (doubleLayout.finite negative m q)
  | _ => .null

instance : Form Float where
  encode := .ofFloat
  decode
    | .number n => n.toFloat?
    | _ => none

instance [Form α] : Form (List α) where
  encode items := .array (items.map encode)
  decode
    | .array items => items.mapM decode
    | _ => none

instance [Form α] : Form (SortedMap α) where
  encode m := .ofMembers (m.toList.map fun e => (e.1, encode e.2))
  decode
    | .object members =>
      (members.mapM fun (m : Option String × Value) => do
        let key ← m.1
        let value ← decode m.2
        return (key, value)).map SortedMap.ofList
    | _ => none

/-- The values of a member of an object. -/
def membersOf (name : String) (members : List (Option String × Value)) : List Value :=
  members.filterMap fun m => if m.1 = some name then some m.2 else none

/-- The value of a field that is given at most once. -/
def field? (members : List (Option String × Value)) (name : String) : Option (Option Value) :=
  match membersOf name members with
  | [] => some none
  | [v] => some (some v)
  | _ => none

/-- The values of a record's fields, in order, where a missing one is nothing. -/
def fields? (names : List String) : Value → Option (List (Option Value))
  | .object members =>
    if members.all fun m => m.1.isSome then names.mapM (field? members) else none
  | .array items =>
    if items.length ≤ names.length then
      some (items.map some ++ List.replicate (names.length - items.length) none)
    else none
  | _ => none

/-- The value of a field that has to be there. -/
def required? [Form α] (v : Option Value) : Option α :=
  v.bind decode

/-- The value of a field that may be missing or null. -/
def optional? [Form α] : Option Value → Option (Option α)
  | none => some none
  | some .null => some none
  | some v => (decode v).map some

/-- The name that selects one of some cases: a text, or an object of the name with null. -/
def case? : Value → Option String
  | .text s => s
  | .object [(s, .null)] => s
  | _ => none

end DiskHealth.Json
