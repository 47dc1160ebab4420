import DiskHealth.Decimal.Number

/-!
JSON values as they are written. Numbers keep their spelling and objects their members in order,
keys given twice included, so that what a reader accepts is decided by the type that is read and not
here.
-/

namespace DiskHealth.Json

/-- A JSON value. A text that is `none` is a literal that stands for no text, since it escapes one
half of a surrogate pair without the other. -/
inductive Value where
  | null
  | boolean (b : Bool)
  /-- A number, as it is spelled. -/
  | number (n : Decimal.Number)
  | text (s : Option String)
  | array (items : List Value)
  | object (members : List (Option String × Value))

namespace Value

instance : Inhabited Value := ⟨null⟩

def ofString (s : String) : Value :=
  text (some s)

def ofWord (w : Int64) : Value :=
  number (.ofInt w.toInt)

/-- The object of some keys and their values. -/
def ofMembers (members : List (String × Value)) : Value :=
  object (members.map fun m => (some m.1, m.2))

/-- The text of a value that is one. -/
def string? : Value → Option String
  | text s => s
  | _ => none

end Value

end DiskHealth.Json
