import DiskHealth.Telemetry.KeyValue
import DiskHealth.Telemetry.Tabular

/-!
Parsing of telemetry in both dialects at once. The number of its words puts a row into a dialect;
rows of neither are dropped. One pass feeds both dialects, each with a state of its own, and in the
end the key/value section is laid over the tabular one.
-/

namespace DiskHealth.Telemetry

/-- The forms that telemetry comes in. -/
inductive Dialect where
  /-- A table of attributes with fixed columns. -/
  | tabular
  /-- Lines of a field and its value, under a line with their device. -/
  | keyValue
  deriving DecidableEq, Repr

/-- The dialect of a row, by the number of its words. -/
def Dialect.ofRow? (row : Row) : Option Dialect :=
  if Tabular.minColumns ≤ row.length then some .tabular
  else if 3 ≤ row.length ∧ row.length ≤ 6 then some .keyValue
  else none

/-- What both dialects have given so far. -/
structure ParseState where
  tabular : Section := ∅
  keyValue : KeyValue.State := {}

/-- The state after one more row, which goes to its dialect. -/
def ParseState.feed (state : ParseState) (row : Row) : ParseState :=
  match Dialect.ofRow? row with
  | some .tabular => { state with tabular := Tabular.feed state.tabular row }
  | some .keyValue => { state with keyValue := KeyValue.feed state.keyValue row }
  | none => state

/-- The section of a table, read in a single pass. -/
def parseTable (table : Table) : Section :=
  let state := table.foldl ParseState.feed {}
  state.tabular.merge state.keyValue.readings

/-- The section of an agent's output. -/
def parseOutput (raw : String) : Section :=
  parseTable (.ofSection raw Table.smartSection)

end DiskHealth.Telemetry
