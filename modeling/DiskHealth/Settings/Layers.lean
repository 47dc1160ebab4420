import DiskHealth.Files.Access
import DiskHealth.Files.Path
import DiskHealth.Rate.Key
import DiskHealth.Settings.Environment
import DiskHealth.Text.Utf8
import DiskHealth.Toml.Reader

/-!
The settings of the program and their layers: a TOML file if there is one, then the environment,
and the defaults below both. Each layer may give some of the settings and leave the others to those
below it. The layers are laid over each other before they are laid over the defaults, so what a
layer replaces in a file does not hide a default.
-/

namespace DiskHealth

open Files (FileAccess)

/-- The settings of the program. -/
structure Settings where
  baselines : String := "smartwatch-baselines.json"
  rateState : String := "smartwatch-counters.json"
  check : String := RateKey.defaultCheck
  /-- What is logged. -/
  filter : String := "info"
  deriving DecidableEq, Repr

/-- Why there are no settings. -/
inductive SettingsError where
  | unreadable
  | malformed
  /-- A setting is missing or of the wrong type. -/
  | mistyped
  deriving DecidableEq, Repr

namespace Settings

/-- Whether all settings are the defaults. Paths count by where they lead. -/
def isDefault (s : Settings) : Bool :=
  let defaults : Settings := {}
  Files.parts s.baselines == Files.parts defaults.baselines &&
    Files.parts s.rateState == Files.parts defaults.rateState &&
    s.check == defaults.check && s.filter == defaults.filter

def toNode (s : Settings) : Node :=
  .table
    [("state", .table [("baselines", .text s.baselines), ("rate_state", .text s.rateState)]),
      ("check", .table [("name", .text s.check)]),
      ("log", .table [("filter", .text s.filter)])]

def ofNode? (tree : Node) : Option Settings := do
  let [state, check, log] ← tree.fields? ["state", "check", "log"] | none
  let [baselines, rateState] ← state.fields? ["baselines", "rate_state"] | none
  let [name] ← check.fields? ["name"] | none
  let [filter] ← log.fields? ["filter"] | none
  return ⟨← baselines.text?, ← rateState.text?, ← name.text?, ← filter.text?⟩

/-- A tree with a layer laid over it. -/
def apply (tree : Node) (layer : Layer) : Node :=
  layer.foldl (fun tree entry => (KeyPath.ofText entry.1).set entry.2 tree) tree

/-- The layer that some layers amount to, each laid over those before it. -/
def combine (layers : List Layer) : Layer :=
  (layers.foldl apply (.table [])).members

/-- The settings of layers over the defaults. -/
def ofLayers (layers : List Layer) : Except SettingsError Settings :=
  match ofNode? (apply (toNode {}) (combine layers)) with
  | some s => .ok s
  | none => .error .mistyped

/-- The bytes that mark a file as text in Unicode. -/
def byteOrderMark : List UInt8 :=
  [0xEF, 0xBB, 0xBF]

/-- The text of a file of settings. Bytes that are no text are replaced. -/
def fileText (bytes : List UInt8) : String :=
  let bytes := if bytes.take 3 = byteOrderMark then bytes.drop 3 else bytes
  String.ofList (Text.Utf8.decodeLossy bytes.length bytes)

def ofFile (bytes : List UInt8) : Except SettingsError Layer :=
  match Toml.read? (fileText bytes) with
  | some members => .ok (Node.ofMembers members)
  | none => .error .malformed

variable {m : Type → Type} [Monad m] [FileAccess m]

/-- The bytes of the file at a path, or at the path with the ending of TOML files. -/
def readEither (path : String) : m (Except SettingsError (List UInt8)) := do
  match ← FileAccess.read path with
  | .ok bytes => return .ok bytes
  | .error _ =>
    match ← FileAccess.read (Files.extended path ".toml") with
    | .ok bytes => return .ok bytes
    | .error _ => return .error .unreadable

/-- The bytes of the file that a path stands for, which is looked for from the root. -/
def readFile (path : String) : m (Except SettingsError (List UInt8)) := do
  match (← FileAccess.absolute path : Except Files.FileError String) with
  | .ok path => readEither path
  | .error _ => return .error .unreadable

/-- The settings of a file, if one is given, and an environment. -/
def load (path : Option String) (environment : Environment) :
    m (Except SettingsError Settings) := do
  match path with
  | none => return ofLayers [environment.layer]
  | some path =>
    return ((← readFile path).bind ofFile).bind fun layer =>
      ofLayers [layer, environment.layer]

end Settings

end DiskHealth
