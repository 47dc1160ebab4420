import DiskHealth.Reading
import DiskHealth.Telemetry.Conversion
import DiskHealth.Telemetry.Table

/-!
The tabular dialect: one attribute per line, in at least thirteen columns. An attribute whose code
the catalog knows is recorded under its canonical name, and a later line replaces an earlier one.
Any other keeps the vendor's name, and the first line of a name counts.
-/

namespace DiskHealth.Telemetry

/-- The columns of a tabular line that are used. -/
structure TabularLine where
  device : String
  code : String
  name : String
  value : String
  threshold : String
  raw : String
  deriving DecidableEq, Repr

namespace TabularLine

/-- The columns of a row, if it has thirteen or more. -/
def ofRow? : Row → Option TabularLine
  | device :: _ :: _ :: code :: name :: _ :: value :: _ :: threshold :: _ :: _ :: _ :: raw :: _ =>
    some ⟨device, code, name, value, threshold, raw⟩
  | _ => none

/-- The code of a line, if it is a number below `2 ^ 32`. -/
def codeNumber? (line : TabularLine) : Option Nat :=
  (Numeral.unsigned? 10 line.code.toList).filter (· < 0x100000000)

/-- The catalog's attribute for a line. -/
def subject? (line : TabularLine) : Option Attribute :=
  line.codeNumber?.bind fun code => Attribute.ofCode? code line.name

/-- The normalized value and its threshold, if both are numbers. -/
def normalized? (line : TabularLine) : Option NormalizedPair :=
  match decimal? line.value.toList, decimal? line.threshold.toList with
  | some value, some threshold => some ⟨value, threshold⟩
  | _, _ => none

/-- The name that vendors print for attributes they do not document. -/
def undocumented : String :=
  "Unknown_Attribute"

/-- A device's reading with the attribute of one line recorded. -/
def record (line : TabularLine) (r : Reading) : Reading :=
  if line.name = undocumented then r
  else
    match line.subject? with
    | some a =>
      let r := r.set a.name (intOrZero a.name line.raw)
      if a = .reallocatedEvents then { r with reallocatedEvents := line.normalized? } else r
    | none => r.setIfAbsent line.name (intOrZero line.name line.raw)

end TabularLine

namespace Tabular

def minColumns : Nat := 13

/-- The section with one row recorded. A row with too few columns changes nothing. -/
def feed (s : Section) (row : Row) : Section :=
  match TabularLine.ofRow? row with
  | some line => s.modify line.device line.record
  | none => s

/-- The section of a table's tabular rows. -/
def parse (table : Table) : Section :=
  table.foldl feed ∅

end Tabular

end DiskHealth.Telemetry
