import DiskHealth.Reading
import DiskHealth.Telemetry.Conversion
import DiskHealth.Telemetry.Table

/-!
The key/value dialect: a line that names a device, then lines of a field and its value. A line whose
first word holds `/dev` starts a device's record, or resumes it. A field keys its value with spaces
replaced by underscores, and a later line replaces an earlier one.
-/

namespace DiskHealth.Telemetry

namespace KeyValue

/-- The bytes of one data unit, in which devices count what they read and write. -/
def dataUnitBytes : Int := 512000

/-- The marks of grouped digits, decimals and percentages, which are taken out of values. -/
def isMark (c : Char) : Bool :=
  c == '%' || c == '.' || c == ','

/-- The first word of a text, empty if there is none. -/
def firstWord (cs : List Char) : List Char :=
  (Text.words cs).headD []

/-- The word of a field's value, whose marks are taken out already. -/
def convert (field key : String) (value : List Char) : Except Fault Int64 :=
  if field = "Temperature" then parseInt key (String.ofList (firstWord value))
  else if field = "Critical Warning" then parseHex key (String.ofList value)
  else if field = "Data Units Read" ∨ field = "Data Units Written" then
    (parseInt key (String.ofList (firstWord value))).map fun units =>
      Numeral.clamp (units.toInt * dataUnitBytes)
  else parseInt key (String.ofList value)

/-- The key and the value of a line, which is cut at its first colon. -/
def parsePair (line : String) : Except Fault (String × Int64) :=
  match Text.splitAtFirst? ':' line.toList with
  | none => .error (.missingSeparator line)
  | some (before, after) =>
    let field := Text.trim before
    let key := String.ofList (field.map fun c => if c = ' ' then '_' else c)
    let value := (Text.trim after).filter fun c => !isMark c
    .ok (key, orZero (convert (String.ofList field) key value))

/-- What was read so far, and the device whose record is open. -/
structure State where
  readings : Section := ∅
  /-- The device whose record is open. -/
  current : Option String := none

/-- Whether the first word of a line names a device. -/
def namesDevice (word : String) : Bool :=
  Text.occurs ['/', 'd', 'e', 'v'] word.toList

def feed (state : State) (row : Row) : State :=
  match row with
  | [] => state
  | first :: _ =>
    if namesDevice first then { readings := state.readings.ensure first, current := some first }
    else
      match state.current with
      | none => state
      | some device =>
        match parsePair (" ".intercalate row) with
        | .ok (key, value) =>
          { state with readings := state.readings.modify device fun r => r.set key value }
        | .error _ => state

/-- The section of a table's key/value rows. -/
def parse (table : Table) : Section :=
  (table.foldl feed {}).readings

end KeyValue

end DiskHealth.Telemetry
