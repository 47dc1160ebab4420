import DiskHealth.Settings.KeyPath
import DiskHealth.SortedMap
import DiskHealth.Text.Blank

/-!
The environment as a layer of settings. A variable whose name begins with the program's gives the
setting at the key path that the rest of its name spells, with doubled underscores for points. Names
are taken in lower case.
-/

namespace DiskHealth.Settings

/-- A layer of settings: key paths, as texts, with what they set. -/
abbrev Layer := List (String × Node)

/-- The variables of an environment, with their values. -/
abbrev Environment := List (String × String)

namespace Environment

/-- What the names of variables begin with that give settings. -/
def start : List Char :=
  ['s', 'm', 'a', 'r', 't', 'w', 'a', 't', 'c', 'h', '_']

/-- A character in lower case, as far as the characters of keys are concerned. -/
def lower (c : Char) : Char :=
  if c = '\u212A' then 'k' else c.toLower

/-- The rest of a name with points for doubled underscores. -/
def withPoints : List Char → List Char
  | '_' :: '_' :: rest => '.' :: withPoints rest
  | c :: rest => c :: withPoints rest
  | [] => []

/-- The key path that a variable sets, if it sets one. -/
def pathOf? (name : String) : Option String :=
  (Text.stripStart? start (name.toList.map lower)).map fun rest => String.ofList (withPoints rest)

def entryOf? (v : String × String) : Option (String × Node) :=
  (pathOf? v.1).map fun path => (path, .text v.2)

def layer (e : Environment) : Layer :=
  (SortedMap.ofList (e.filterMap entryOf?)).toList

/-- The variable that a text of a name and a value gives, which an equals sign parts. -/
def ofText? (cs : List Char) : Option (String × String) :=
  (Text.splitAtFirst? '=' cs).map fun parts => (String.ofList parts.1, String.ofList parts.2)

end Environment

end DiskHealth.Settings
