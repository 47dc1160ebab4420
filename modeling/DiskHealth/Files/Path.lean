import DiskHealth.Text.Blank

/-!
Paths of files. A path is kept as it was given, since messages show it so; its parts say where it
leads. Two paths with the same parts lead to the same place.
-/

namespace DiskHealth.Files

/-- The pieces of a text between the marks in it, empty ones included. -/
def pieces (mark : Char) : List Char → List (List Char)
  | [] => [[]]
  | c :: rest =>
    if c = mark then [] :: pieces mark rest
    else
      match pieces mark rest with
      | [] => [[c]]
      | piece :: others => (c :: piece) :: others

/-- The pieces of a path between its slashes. -/
def segments (path : String) : List String :=
  (pieces '/' path.toList).map String.ofList

/-- The part that stands for the root of all files. -/
def root : String := "/"

/-- The part that stands for the directory one is in. -/
def current : String := "."

/-- The part that stands for the directory around the one before. -/
def parent : String := ".."

/-- The first part of a path whose first segment is given, if it counts. -/
def firstPart (first : String) (others : List String) : List String :=
  if first = "" then (if others.isEmpty then [] else [root]) else [first]

/-- The parts of a path: its segments without those that lead nowhere else, after the root if it
starts there. -/
def parts (path : String) : List String :=
  match segments path with
  | [] => []
  | first :: others =>
    firstPart first others ++ others.filter fun s => s != "" && s != current

/-- The names along a path, from where it starts. Those that stand for the directory one is in
count, since they can only follow a directory. -/
def names (path : String) : List String :=
  (segments path).filter (· != "")

/-- Whether a path starts at the root of all files. -/
def isAbsolute (path : String) : Bool :=
  path.toList.head? == some '/'

/-- Whether a path ends in a slash, so that it can only lead to a directory. -/
def endsInSlash (path : String) : Bool :=
  path.toList.getLast? == some '/'

/-- What a path leads to from a directory, as one path. -/
def within (directory path : String) : String :=
  if isAbsolute path then path
  else if endsInSlash directory then directory ++ path
  else directory ++ "/" ++ path

/-- The segments of a path in reverse without those at its end that lead nowhere else. -/
def fromLast (reversed : List String) : List String :=
  reversed.dropWhile fun s => s == "" || s == current

/-- The path of the directory around what a path leads to, as it is spelled there. -/
def surrounding (path : String) : String :=
  match fromLast ((fromLast (segments path).reverse).drop 1) with
  | [] => if isAbsolute path then root else current
  | above => "/".intercalate above.reverse

/-- Whether a name has an ending, which is what follows a point in it that is not its first
character. -/
def hasEnding (name : String) : Bool :=
  (name.toList.drop 1).contains '.'

/-- The name that stands before an ending where a path spells none after its last slash. -/
def placeholder : String := ".placeholder"

/-- The path of the file that a path stands for, with an ending put after its last part. A part with
no ending of its own takes the new one, and what follows it is dropped. Otherwise the ending goes to
the end of the path as it is spelled, so that one in a slash stands for a file in the directory. -/
def extended (path ending : String) : String :=
  match fromLast (segments path).reverse with
  | [] => path
  | last :: above =>
    if last = parent then path
    else if hasEnding last then
      path ++ (if endsInSlash path then placeholder else "") ++ ending
    else "/".intercalate (last :: above).reverse ++ ending

end DiskHealth.Files
