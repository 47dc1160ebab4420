import DiskHealth.Files.Document
import DiskHealth.Telemetry.Parse

/-!
Sources of telemetry: a buffer that already holds an agent's output, or a file that is read anew
each time. Of the output only the section of the disks counts.
-/

namespace DiskHealth.Telemetry

open Files (FileAccess FileError)

/-- Where telemetry comes from. -/
inductive Source where
  /-- A buffer with an agent's output, under a description. -/
  | memory (raw description : String)
  /-- A file with an agent's output. -/
  | file (path : String)
  deriving DecidableEq, Repr

/-- A file of telemetry could not be read. -/
structure SourceError where
  path : String
  cause : FileError
  deriving DecidableEq, Repr

def SourceError.message (e : SourceError) : String :=
  "failed to read " ++ e.path ++ ": " ++ e.cause.message

namespace Source

/-- A buffer without a description of its own. -/
def ofOutput (raw : String) : Source :=
  .memory raw "memory"

def description : Source → String
  | memory _ description => description
  | file path => "file: " ++ path

variable {m : Type → Type} [Monad m] [FileAccess m]

def output : Source → m (Except SourceError String)
  | memory raw _ => return .ok raw
  | file path =>
    return ((← FileAccess.read path).bind Files.Document.text).mapError (SourceError.mk path)

/-- The rows of the disks' section. -/
def table (s : Source) : m (Except SourceError Table) :=
  return (← s.output).map (Table.ofSection · Table.smartSection)

def readings (s : Source) : m (Except SourceError Section) :=
  return (← s.table).map parseTable

end Source

end DiskHealth.Telemetry
