import DiskHealth.Files.Access
import DiskHealth.Json.Form
import DiskHealth.Text.Utf8

/-!
Documents: values kept in files as JSON. A missing file holds no document; one that is there but
cannot be read or decoded is an error and never taken for an empty one. Saving puts pretty text in
place of the file in a single step.
-/

namespace DiskHealth.Files

/-- Why a document could not be loaded or saved. -/
inductive StoreError where
  | access (path : String) (cause : FileError)
  | decode (path : String)
  deriving DecidableEq, Repr

def StoreError.message : StoreError → String
  | access path cause => "failed to access " ++ path ++ ": " ++ cause.message
  | decode path => "failed to decode " ++ path

namespace Document

def text (bytes : List UInt8) : Except FileError String :=
  match Text.Utf8.toString? bytes with
  | some s => .ok s
  | none => .error .notText

/-- The document in the bytes of a file. -/
def ofBytes (α : Type) [Json.Form α] (path : String) (bytes : List UInt8) : Except StoreError α :=
  match text bytes with
  | .error cause => .error (.access path cause)
  | .ok s =>
    match Json.parse? s with
    | some a => .ok a
    | none => .error (.decode path)

/-- The document of what reading a file gave. -/
def ofRead (α : Type) [Json.Form α] (path : String) :
    Except FileError (List UInt8) → Except StoreError (Option α)
  | .error .notFound => .ok none
  | .error cause => .error (.access path cause)
  | .ok bytes => (ofBytes α path bytes).map some

/-- The document in a file, if there is a file. -/
def load {m : Type → Type} [Monad m] [FileAccess m] (α : Type) [Json.Form α] (path : String) :
    m (Except StoreError (Option α)) :=
  return ofRead α path (← FileAccess.read path)

def toBytes {α : Type} [Json.Form α] (a : α) : List UInt8 :=
  Text.Utf8.ofString (Json.prettyText a)

def save {m : Type → Type} [Monad m] [FileAccess m] {α : Type} [Json.Form α] (path : String)
    (a : α) : m (Except StoreError Unit) :=
  return (← FileAccess.replace path (toBytes a)).mapError (.access path)

end Document

end DiskHealth.Files
