import DiskHealth.Command.Run
import DiskHealth.Files.Path
import Std.Time.DateTime.Timestamp

/-!
The program on a machine: its files, its environment and its clock.
-/

namespace DiskHealth.Machine

open Files (FileAccess FileError)

/-- Actions on a machine, with the files whose locks are held until the program ends. -/
abbrev Locking := StateT (List IO.FS.Handle) IO

/-- Whether a code is one of an error; systems give it with either sign. -/
def isCode (number code : UInt32) : Bool :=
  code == number || code == 0 - number

/-- The code of a path through something that is no directory. -/
def notDirectoryCode : UInt32 := 20

/-- The code of a name that is too long. -/
def nameTooLongCode : UInt32 := 36

def reason : IO.Error → FileError
  | .noFileOrDirectory _ _ _ => .notFound
  | .inappropriateType _ code _ =>
    if isCode notDirectoryCode code then .notDirectory else .isDirectory
  | .resourceBusy _ _ => .busy
  | .invalidArgument path code text =>
    if isCode nameTooLongCode code then .nameTooLong
    else .other (toString (IO.Error.invalidArgument path code text))
  | e => .other (toString e)

/-- The outcome of an action on the file at a path. -/
def attempt (path : String) (action : IO α) : Locking (Except FileError α) := do
  if path.toList.contains '\x00' then return .error .zeroInName
  match ← action.toBaseIO with
  | .ok a => return .ok a
  | .error e => return .error (reason e)

/-- The path from the root to what a path leads to. -/
def absolute (path : String) : Locking (Except FileError String) :=
  if Files.isAbsolute path then return .ok path
  else attempt "" do return Files.within (← IO.currentDir).toString path

/-- The characters that a new file is named with. -/
def freshChars : List Char :=
  "abcdefghijklmnopqrstuvwxyz0123456789".toList

/-- A name for a new file, which no other file has but by chance. -/
def freshName : IO String := do
  let chosen ← (List.replicate 6 ()).mapM fun _ => do
    return freshChars.getD (← IO.rand 0 (freshChars.length - 1)) 'a'
  return ".tmp" ++ String.ofList chosen

/-- Makes a new file with some bytes. -/
def writeNew (path : String) (bytes : List UInt8) : IO Unit := do
  let handle ← IO.FS.Handle.mk path .writeNew
  handle.write ⟨bytes.toArray⟩

/-- Gives the name that a path spells to a new file, which is removed if it cannot have it. -/
def giveName (path fresh : String) : Locking (Except FileError Unit) := do
  let outcome ←
    if path.toList.contains '\x00' then pure (.error .zeroInNewName)
    else attempt path (IO.FS.rename fresh path)
  if let .error _ := outcome then
    let _ ← (IO.FS.removeFile fresh).toBaseIO
  return outcome

/-- Puts bytes in place of a file by giving its name to a new one beside it. -/
def replaceFile (path : String) (bytes : List UInt8) : Locking (Except FileError Unit) := do
  match ← absolute (Files.surrounding path) with
  | .error e => return .error e
  | .ok directory =>
    let fresh := Files.within directory (← freshName)
    match ← attempt fresh (writeNew fresh bytes) with
    | .error e => return .error e
    | .ok () => giveName path fresh

/-- Waits for the lock of a file and holds it. -/
def lockFile (path : String) : IO IO.FS.Handle := do
  let handle ← IO.FS.Handle.mk path .append
  handle.lock
  return handle

instance : FileAccess Locking where
  absolute := absolute
  read path := attempt path do return (← IO.FS.readBinFile path).toList
  replace := replaceFile
  lock path := do
    match ← attempt path (lockFile path) with
    | .ok handle =>
      modify (handle :: ·)
      return .ok ()
    | .error e => return .error e

/-- The variables of the environment, as far as the system shows them. -/
def environment : IO Settings.Environment := do
  match ← (IO.FS.readBinFile "/proc/self/environ").toBaseIO with
  | .ok bytes =>
    let text := Text.Utf8.decodeLossy bytes.size bytes.toList
    return (Files.pieces '\x00' text).filterMap Settings.Environment.ofText?
  | .error _ => return []

def clock : Locking (Option Float) := do
  let time ← Std.Time.Timestamp.now
  return Command.timeOf? time.toNanosecondsSinceUnixEpoch.val

end DiskHealth.Machine

/-- Runs the program with the arguments of the command line. -/
def main (arguments : List String) : IO UInt32 := do
  let environment ← DiskHealth.Machine.environment
  let action : DiskHealth.Machine.Locking DiskHealth.Command.Result :=
    DiskHealth.Command.run arguments environment DiskHealth.Machine.clock
  let (result, _) ← action.run []
  IO.print result.output
  IO.eprint result.error
  return result.exit.toUInt32
