/-!
Access to files. `FileAccess` is all that the library asks of a file system: where relative paths
start, reading a file whole, replacing one in a single step, and holding the lock of one. What is
written against it runs over the files of a machine and over a tree of files in memory alike.
-/

namespace DiskHealth.Files

/-- Why a file could not be accessed. -/
inductive FileError where
  | notFound
  /-- A part of the path that has more after it is no directory. -/
  | notDirectory
  | isDirectory
  /-- The path leads to a directory by way of itself. -/
  | busy
  /-- A name in the path, or the path, is longer than the system takes. -/
  | nameTooLong
  /-- A zero byte stands in the path, where it would end it. -/
  | zeroInName
  /-- A file cannot take the name that the path spells, since a zero byte stands in it. -/
  | zeroInNewName
  | notText
  /-- Any other reason, in the words of the operating system. -/
  | other (text : String)
  deriving DecidableEq, Repr

def FileError.message : FileError → String
  | notFound => "No such file or directory (os error 2)"
  | notDirectory => "Not a directory (os error 20)"
  | isDirectory => "Is a directory (os error 21)"
  | busy => "Device or resource busy (os error 16)"
  | nameTooLong => "File name too long (os error 36)"
  | zeroInName => "file name contained an unexpected NUL byte"
  | zeroInNewName => "Invalid argument (os error 22)"
  | notText => "stream did not contain valid UTF-8"
  | other text => text

/-- What the library asks of a file system. -/
class FileAccess (m : Type → Type) where
  /-- The path from the root to what a path leads to. -/
  absolute : String → m (Except FileError String)
  read : String → m (Except FileError (List UInt8))
  /-- Puts bytes in place of a file, or leaves all files as they are. -/
  replace : String → List UInt8 → m (Except FileError Unit)
  /-- Waits for the lock of a file, which is made if it is not there. -/
  lock : String → m (Except FileError Unit)

end DiskHealth.Files
