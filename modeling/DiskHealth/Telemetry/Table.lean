import DiskHealth.Text.Blank

/-!
Line tables: the lines of an agent's output, each cut into its words. The output may hold several
sections, each under a header line such as `<<<name>>>` or `<<<name:options>>>`; a section runs
until the next header. Output without any header is one section of whatever kind is asked for.
-/

namespace DiskHealth.Telemetry

abbrev Row := List String

/-- The rows of the lines that are not blank, in order. -/
abbrev Table := List Row

namespace Table

/-- The row of a line, or nothing for a blank line. -/
def rowOf (line : List Char) : Table :=
  match Text.fields line with
  | [] => []
  | row => [row]

def ofText (raw : String) : Table :=
  (Text.lines raw.toList).flatMap rowOf

/-- The name of the section that a header line opens. -/
def header? (line : List Char) : Option (List Char) := do
  let opened ← Text.stripStart? ['<', '<', '<'] (Text.trim line)
  let inner ← Text.stripEnd? ['>', '>', '>'] opened
  return inner.takeWhile (· ≠ ':')

/-- The rows of the lines under headers of a name; `inside` says whether the last header was one. -/
def sectionRows (name : List Char) (inside : Bool) : List (List Char) → Table
  | [] => []
  | line :: rest =>
    match header? line with
    | some found => sectionRows name (found == name) rest
    | none => (if inside then rowOf line else []) ++ sectionRows name inside rest

/-- The rows of one section of an agent's output. -/
def ofSection (raw name : String) : Table :=
  let lines := Text.lines raw.toList
  if lines.any fun line => (header? line).isSome then sectionRows name.toList false lines
  else ofText raw

/-- The name of the section with the telemetry of disks. -/
def smartSection : String :=
  "smart"

end Table

end DiskHealth.Telemetry
