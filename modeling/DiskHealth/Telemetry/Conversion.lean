import DiskHealth.Numeral
import DiskHealth.Text.Blank
import DiskHealth.Text.Quoted

/-!
Conversion of the texts of telemetry into words. A fault names the field and shows the value as it
came; parsing records a faulty value as zero, so a fault stays with its own attribute.
-/

namespace DiskHealth.Telemetry

/-- Why a text of telemetry could not be converted. -/
inductive Fault where
  /-- The value of a field is no decimal numeral in range. -/
  | invalidInteger (field value : String)
  /-- The value of a field is no hexadecimal numeral in range. -/
  | invalidHex (field value : String)
  /-- A line of a field and its value has no colon. -/
  | missingSeparator (line : String)
  deriving DecidableEq, Repr

def Fault.message : Fault → String
  | invalidInteger field value => "invalid integer for " ++ field ++ ": " ++ Text.quote value
  | invalidHex field value =>
    "invalid hexadecimal value for " ++ field ++ ": " ++ Text.quote value
  | missingSeparator line => "missing ':' separator in " ++ Text.quote line

/-- The word of a decimal numeral, with or without blanks around it. -/
def decimal? (cs : List Char) : Option Int64 :=
  Numeral.read? 10 (Text.trim cs)

/-- The digits of a hexadecimal numeral that may be marked as one. -/
def unmarked : List Char → List Char
  | '0' :: 'x' :: rest => rest
  | '0' :: 'X' :: rest => rest
  | cs => cs

/-- The word of a hexadecimal numeral, marked or not, with or without blanks around it. -/
def hexadecimal? (cs : List Char) : Option Int64 :=
  Numeral.read? 16 (unmarked (Text.trim cs))

/-- The word of a field's decimal value. -/
def parseInt (field value : String) : Except Fault Int64 :=
  match decimal? value.toList with
  | some w => .ok w
  | none => .error (.invalidInteger field value)

/-- The word of a field's hexadecimal value. -/
def parseHex (field value : String) : Except Fault Int64 :=
  match hexadecimal? value.toList with
  | some w => .ok w
  | none => .error (.invalidHex field value)

/-- The word of a conversion, zero in place of a fault. -/
def orZero : Except Fault Int64 → Int64
  | .ok w => w
  | .error _ => 0

/-- The word of a field's decimal value, zero in place of a fault. -/
def intOrZero (field value : String) : Int64 :=
  orZero (parseInt field value)

end DiskHealth.Telemetry
