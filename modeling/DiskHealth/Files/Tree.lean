import DiskHealth.Files.Access
import DiskHealth.Files.Path
import DiskHealth.SortedMap

/-!
A tree of files in memory, with access to its files. A place is given by the names on the way to it
from the root; a path is followed name by name. There are directories on the way to where relative
paths start, but nothing else is known to be in them.
-/

namespace DiskHealth.Files

/-- What can be at a place of a tree. -/
inductive Entry where
  | file (bytes : List UInt8)
  | directory
  deriving DecidableEq

/-- A tree of files. -/
structure Tree where
  /-- The place where relative paths start. -/
  home : List String
  /-- What is at places, by their keys. The directories on the way to where relative paths start
  are always there and have no entry. -/
  entries : SortedMap Entry := ∅
  deriving DecidableEq

namespace Tree

def key (place : List String) : String :=
  "/".intercalate place

/-- The path from the root to what a path leads to. -/
def absolute (t : Tree) (path : String) : String :=
  within (root ++ key t.home) path

def entry? (t : Tree) (place : List String) : Option Entry :=
  if place.isPrefixOf t.home then some .directory else t.entries.get? (key place)

/-- The tree with something at a place. -/
def set (t : Tree) (place : List String) (entry : Entry) : Tree :=
  { t with entries := t.entries.insert (key place) entry }

/-- Refuses to go on from a place that is no directory. -/
def enter (t : Tree) (place : List String) : Except FileError Unit :=
  match t.entry? place with
  | some .directory => .ok ()
  | some (.file _) => .error .notDirectory
  | none => .error .notFound

def longestName : Nat := 255

/-- The place that one name leads to from a directory. -/
def step (place : List String) (name : String) : Except FileError (List String) :=
  if name = current then .ok place
  else if name = parent then .ok place.dropLast
  else if longestName < name.utf8ByteSize then .error .nameTooLong
  else .ok (place ++ [name])

/-- The place that some names lead to from another, where there may be nothing. -/
def follow (t : Tree) (place : List String) : List String → Except FileError (List String)
  | [] => .ok place
  | name :: rest =>
    (t.enter place).bind fun _ => (step place name).bind fun next => follow t next rest

def longestPath : Nat := 4095

/-- Refuses paths that are not followed at all, those with a zero byte in them for a given
reason. -/
def accept (zero : FileError) (path : String) : Except FileError Unit :=
  if path.toList.contains '\x00' then .error zero
  else if longestPath < path.utf8ByteSize then .error .nameTooLong
  else .ok ()

def start (t : Tree) (path : String) : List String :=
  if isAbsolute path then [] else t.home

/-- The place that a path leads to. -/
def place (t : Tree) (path : String) : Except FileError (List String) :=
  (accept .zeroInName path).bind fun _ =>
    if path = "" then .error .notFound
    else
      (t.follow (t.start path) (names path)).bind fun place =>
        if endsInSlash path then (t.enter place).map fun _ => place else .ok place

/-- The place of a file that may be there or not. -/
def filePlace (t : Tree) (path : String) : Except FileError (List String) :=
  (t.place path).bind fun place =>
    if t.entry? place = some .directory then .error .isDirectory else .ok place

def read (t : Tree) (path : String) : Except FileError (List UInt8) :=
  (t.filePlace path).bind fun place =>
    match t.entry? place with
    | some (.file bytes) => .ok bytes
    | _ => .error .notFound

/-- The name that a new file has until it takes the one of an old file. Only its length counts. -/
def freshName : String := ".tmp000000"

/-- Refuses to make a new file beside what a path leads to if there is no directory for it. The new
file is made by its path from the root. -/
def prepare (t : Tree) (path : String) : Except FileError Unit :=
  (t.place (within (t.absolute (surrounding path)) freshName)).map fun _ => ()

/-- The place where a file may take the name at the end of some names. -/
def placeOfLast (t : Tree) (place : List String) : List String → Except FileError (List String)
  | [] => .error .busy
  | [name] =>
    (t.enter place).bind fun _ =>
      if name = current ∨ name = parent then .error .busy else step place name
  | name :: rest =>
    (t.enter place).bind fun _ => (step place name).bind fun next => placeOfLast t next rest

/-- The place where a file may take the name that a path spells. The file takes it from another one,
but not from a directory. -/
def target (t : Tree) (path : String) : Except FileError (List String) :=
  (accept .zeroInNewName path).bind fun _ =>
    if path = "" then .error .notFound
    else
      (t.placeOfLast (t.start path) (names path)).bind fun place =>
        if endsInSlash path then .error .notDirectory
        else if t.entry? place = some .directory then .error .isDirectory
        else .ok place

/-- The tree with bytes in place of a file. The new file is made beside the old one first, then it
takes its name. -/
def replace (t : Tree) (path : String) (bytes : List UInt8) : Except FileError Tree :=
  (t.prepare path).bind fun _ => (t.target path).map fun place => t.set place (.file bytes)

/-- The tree with a file at a path, which is empty unless it was there. -/
def touch (t : Tree) (path : String) : Except FileError Tree :=
  (t.filePlace path).map fun place =>
    if (t.entry? place).isSome then t else t.set place (.file [])

/-- The tree with bytes written to a file, after those that are there if `keep`. -/
def write (t : Tree) (path : String) (bytes : List UInt8) (keep : Bool) : Except FileError Tree :=
  (t.filePlace path).map fun place =>
    match keep, t.entry? place with
    | true, some (.file old) => t.set place (.file (old ++ bytes))
    | _, _ => t.set place (.file bytes)

/-- The tree with a directory at every place on the way through some names. -/
def makeDirectories (t : Tree) (place : List String) : List String → Except FileError Tree
  | [] => .ok t
  | name :: rest =>
    (step place name).bind fun next =>
      match t.entry? next with
      | some (.file _) => .error .notDirectory
      | some .directory => t.makeDirectories next rest
      | none => (t.set next .directory).makeDirectories next rest

/-- The tree with a directory at a path, and at every place on the way to it. -/
def makeDirectory (t : Tree) (path : String) : Except FileError Tree :=
  t.makeDirectories (t.start path) (names path)

/-- The tree with a directory around the place of a path. -/
def makeParent (t : Tree) (path : String) : Except FileError Tree :=
  t.makeDirectory (surrounding path)

/-- The names in the directory where relative paths start, in order. -/
def list (t : Tree) : List String :=
  t.entries.keys.filterMap fun k =>
    let place := segments k
    if place.dropLast = t.home then place.getLast? else none

/-- A change of the tree that leaves it as it is where it fails. -/
def change (f : Tree → Except FileError Tree) : StateM Tree (Except FileError Unit) := fun t =>
  match f t with
  | .ok t' => (.ok (), t')
  | .error e => (.error e, t)

instance : FileAccess (StateM Tree) where
  absolute path := fun t => (.ok (t.absolute path), t)
  read path := fun t => (t.read path, t)
  replace path bytes := change fun t => t.replace path bytes
  lock path := change fun t => t.touch path

end Tree

end DiskHealth.Files
