import DiskHealth.Command.Invocation
import DiskHealth.Rate.Locked
import DiskHealth.Report
import DiskHealth.Settings.Layers
import DiskHealth.Telemetry.Source

/-!
Runs of the commands over the files. Reading comes before any change: a check saves the counters of
its cycle in the end, whatever it found, and a discovery replaces the whole store of baselines. A
check reads the clock once it holds the lock of its counters. A run that fails has changed nothing
but, at most, that a lock was made.
-/

namespace DiskHealth.Command

open Files (FileAccess StoreError)
open Telemetry (Source SourceError)

/-- Why a command failed. -/
inductive RunError where
  | settings (cause : SettingsError)
  /-- The telemetry to be printed cannot be read. -/
  | reading (cause : SourceError)
  /-- The telemetry to be compared cannot be read. -/
  | telemetry (source : Source) (cause : SourceError)
  | baselines (cause : StoreError)
  /-- The rate state cannot be locked or loaded. -/
  | rates (path : String) (cause : StoreError)
  /-- The clock gives no time. -/
  | clockBeforeEpoch
  | savingBaselines (path : String) (cause : StoreError)
  | savingRates (path : String) (cause : StoreError)
  deriving DecidableEq, Repr

def RunError.message : RunError → String
  | settings _ => "failed to load configuration"
  | reading cause => cause.message
  | telemetry source _ => "failed to read telemetry from " ++ source.description
  | baselines cause => cause.message
  | rates path _ => "failed to open rate state " ++ path
  | clockBeforeEpoch => "system clock is before the Unix epoch"
  | savingBaselines path _ => "failed to save baselines to " ++ path
  | savingRates path _ => "failed to save rate state to " ++ path

variable {m : Type → Type} [Monad m] [FileAccess m]

/-- The readings of a file, as pretty JSON. -/
def parse (file : String) : m (Except RunError String) :=
  return (← (Source.file file).readings).map Json.prettyText |>.mapError .reading

/-- The readings that a command compares. -/
def readTelemetry (file : String) : m (Except RunError Section) :=
  return (← (Source.file file).readings).mapError (.telemetry (.file file))

/-- The line of an item that was discovered. -/
def itemLine (d : DiscoveredItem) : String :=
  d.item ++ " (" ++ toString d.parameters.size ++ " attributes)\n"

/-- Puts discovered items in place of all that is stored, if what is stored can be loaded. -/
def replaceStore (path : String) (items : List DiscoveredItem) : m (Except RunError Unit) := do
  match (← BaselineStore.load path : Except StoreError BaselineStore) with
  | .error cause => return .error (.baselines cause)
  | .ok _ =>
    return (← BaselineStore.save path (.ofItems items)).mapError (.savingBaselines path)

/-- Discovers the items of a file and stores their baselines. Gives the items, which are known even
if they cannot be stored. -/
def discoverItems (file path : String) :
    m (Except RunError (List DiscoveredItem × Except RunError Unit)) := do
  match (← readTelemetry file : Except RunError Section) with
  | .error e => return .error e
  | .ok readings =>
    let items := discover readings
    return .ok (items, ← replaceStore path items)

/-- Where a check finds what it needs. -/
structure CheckFiles where
  telemetry : String
  baselines : String
  rateState : String
  deriving DecidableEq, Repr

/-- The time in seconds since the epoch, if a clock that shows so many nanoseconds since then is not
before it. -/
def timeOf? : Int → Option Float
  | .ofNat n => some (Float.ofNat (n / 1000000000) + Float.ofNat (n % 1000000000) / 1000000000)
  | .negSucc _ => none

/-- Checks the stored items, or one of them, and saves the observations of the cycle. The clock is
read when the counters are locked, and gives the time in seconds since the epoch. -/
def checkItems (clock : m (Option Float)) (files : CheckFiles) (check : String)
    (only : Option String) : m (Except RunError Report) := do
  match (← readTelemetry files.telemetry : Except RunError Section) with
  | .error e => return .error e
  | .ok readings =>
    match (← BaselineStore.load files.baselines : Except StoreError BaselineStore) with
    | .error cause => return .error (.baselines cause)
    | .ok store =>
      match (← LockedRates.acquire files.rateState : Except StoreError LockedRates) with
      | .error cause => return .error (.rates files.rateState cause)
      | .ok locked =>
        match ← clock with
        | none => return .error .clockBeforeEpoch
        | some now =>
          let (checks, state) := (Cycle.mk check now).checkAll store readings only locked.state
          match (← { locked with state }.commit : Except StoreError Unit) with
          | .error cause => return .error (.savingRates files.rateState cause)
          | .ok () => return .ok (.ofChecks checks)

/-- What a run of the program leaves to its caller. -/
structure Result where
  exit : Nat := 0
  output : String := ""
  error : String := ""
  deriving DecidableEq, Repr

namespace Result

/-- The result of a failed run that printed something before. -/
def failed (output : String) (e : RunError) : Result :=
  ⟨1, output, "Error: " ++ e.message ++ "\n"⟩

/-- The name and the version of the program. -/
def version : String :=
  "smartwatch 0.1.0"

/-- The result of arguments that ask for no run of a command. -/
def ofHalt : Halt → Result
  | .refused => { exit := 2 }
  | .help => {}
  | .version => { output := version ++ "\n" }

/-- The result of printing readings. -/
def ofParse : Except RunError String → Result
  | .error e => failed "" e
  | .ok text => { output := text ++ "\n" }

def ofDiscovery : Except RunError (List DiscoveredItem × Except RunError Unit) → Result
  | .error e => failed "" e
  | .ok (items, .error e) => failed (String.join (items.map itemLine)) e
  | .ok (items, .ok ()) => { output := String.join (items.map itemLine) }

def ofCheck (asJson : Bool) : Except RunError Report → Result
  | .error e => failed "" e
  | .ok report =>
    { exit := report.exitCode, output := if asJson then report.json ++ "\n" else report.text }

end Result

def Invocation.runWith (i : Invocation) (settings : Settings) (clock : m (Option Float)) :
    m Result := do
  let baselines := i.baselines.getD settings.baselines
  match i.action with
  | .parse => return .ofParse (← parse i.file)
  | .discover => return .ofDiscovery (← discoverItems i.file baselines)
  | .check =>
    let files : CheckFiles := ⟨i.file, baselines, i.rateState.getD settings.rateState⟩
    return .ofCheck i.asJson (← checkItems clock files settings.check i.item)

/-- Runs what the arguments ask for, with the settings that the environment gives. -/
def run (arguments : List String) (environment : Settings.Environment)
    (clock : m (Option Float)) : m Result := do
  match Invocation.ofArguments arguments with
  | .error halt => return .ofHalt halt
  | .ok i =>
    match (← Settings.load i.config environment : Except SettingsError Settings) with
    | .error cause => return .failed "" (.settings cause)
    | .ok settings => i.runWith settings clock

end DiskHealth.Command
