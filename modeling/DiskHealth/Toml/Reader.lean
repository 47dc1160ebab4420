import DiskHealth.Toml.Scalar
import DiskHealth.Toml.Text

/-!
The reader of TOML documents. A document is a sequence of lines, each with a key and its value, a
header, or neither; keys go to the table of the header before them.
-/

namespace DiskHealth.Toml

/-- A text without the spaces it begins with. -/
def skipSpace (cs : List Char) : List Char :=
  cs.dropWhile isSpace

/-- The rest after a comment, if there is one. -/
def skipComment : List Char → List Char
  | '#' :: rest => rest.dropWhile isPlain
  | cs => cs

/-- The rest after what may end a line, and its line break. -/
def endLine (cs : List Char) : Option (List Char) :=
  match skipComment (skipSpace cs) with
  | [] => some []
  | rest => lineBreak? rest

/-- The rest after spaces, comments and line breaks; `fuel` bounds the number of lines. -/
def skipLines : (fuel : Nat) → List Char → List Char
  | 0, cs => cs
  | fuel + 1, cs =>
    match lineBreak? (skipComment (skipSpace cs)) with
    | some rest => skipLines fuel rest
    | none => skipSpace cs

/-- The rest after all that may stand between the parts of a list. -/
def skipFiller (cs : List Char) : List Char :=
  skipLines cs.length cs

/-- The characters of a key without quotes. -/
def isKeyChar (c : Char) : Bool :=
  c.isAlphanum || c == '_' || c == '-'

def readKeyPart (cs : List Char) : Option (String × List Char) :=
  match cs.takeWhile isKeyChar with
  | [] => (readQuoted cs).map fun r => (String.ofList r.1, r.2)
  | name => some (String.ofList name, cs.drop name.length)

/-- The most parts of a key, and the most arrays and inline tables that may stand in each other. -/
def mostNested : Nat := 80

/-- A key of one or more parts: those before the last, and the last; `room` bounds their number. -/
def readParts : (room : Nat) → List Char → Option ((List String × String) × List Char)
  | 0, _ => none
  | room + 1, cs => do
    let (part, rest) ← readKeyPart (skipSpace cs)
    match skipSpace rest with
    | '.' :: rest =>
      let ((path, last), rest) ← readParts room rest
      return ((part :: path, last), rest)
    | rest => return (([], part), rest)

def readKey (cs : List Char) : Option ((List String × String) × List Char) :=
  readParts mostNested cs

mutual

/-- A value, in which at most `room` arrays and inline tables may stand in each other; `fuel` bounds
the number of nested calls. -/
def readValue : (fuel room : Nat) → List Char → Option (Value × List Char)
  | 0, _, _ => none
  | fuel + 1, room, cs =>
    match cs, room with
    | '[' :: rest, room + 1 =>
      (readItems fuel room (skipFiller rest)).map fun r => (.array r.1, r.2)
    | '{' :: rest, room + 1 =>
      (readInline fuel room [] (skipFiller rest)).map fun r => (.table .inline r.1, r.2)
    | '"' :: _, _ => (readText cs).map fun r => (.text (String.ofList r.1), r.2)
    | '\'' :: _, _ => (readText cs).map fun r => (.text (String.ofList r.1), r.2)
    | cs, _ => readScalar cs

/-- The items of an array, and its end. -/
def readItems : (fuel room : Nat) → List Char → Option (List Value × List Char)
  | 0, _, _ => none
  | fuel + 1, room, cs =>
    match cs with
    | ']' :: rest => some ([], rest)
    | cs => do
      let (v, rest) ← readValue fuel room cs
      match skipFiller rest with
      | ',' :: rest =>
        let (vs, rest) ← readItems fuel room (skipFiller rest)
        return (v :: vs, rest)
      | ']' :: rest => return ([v], rest)
      | _ => none

/-- The members of an inline table after some of them, and its end. Lines may end anywhere but
inside a key. -/
def readInline : (fuel room : Nat) → Members → List Char → Option (Members × List Char)
  | 0, _, _, _ => none
  | fuel + 1, room, members, cs =>
    match cs with
    | '}' :: rest => some (members, rest)
    | cs => do
      let ((path, key), rest) ← readKey cs
      let '=' :: rest := skipFiller rest | none
      let (v, rest) ← readValue fuel room (skipFiller rest)
      let members ← Members.assign path key v .header members
      match skipFiller rest with
      | ',' :: rest => readInline fuel room members (skipFiller rest)
      | '}' :: rest => return (members, rest)
      | _ => none

end

/-- What was read of a document: its root, and the path of the table that keys go to. -/
structure Document where
  /-- The members of the root. -/
  members : Members := []
  /-- The table of the last header. -/
  current : List String := []

namespace Document

/-- The document with a change in its root. -/
def change (d : Document) (f : Members.Change) : Option Document :=
  (f .header d.members).map fun members => { d with members }

/-- The document with a key of the current table. -/
def assign (d : Document) (path : List String) (key : String) (value : Value) : Option Document :=
  d.change (Members.alter false (Members.assign path key value) d.current)

def define (d : Document) (path : List String) (key : String) : Option Document :=
  (d.change (Members.define path key)).map fun d => { d with current := path ++ [key] }

/-- The document after a header of one more table in an array. -/
def begin (d : Document) (path : List String) (key : String) : Option Document :=
  (d.change (Members.begin path key)).map fun d => { d with current := path ++ [key] }

/-- The document after one more line. -/
def readLine (d : Document) (cs : List Char) : Option (Document × List Char) :=
  match skipSpace cs with
  | '[' :: '[' :: rest => do
    let ((path, key), rest) ← readKey rest
    let ']' :: ']' :: rest := rest | none
    return (← d.begin path key, ← endLine rest)
  | '[' :: rest => do
    let ((path, key), rest) ← readKey rest
    let ']' :: rest := rest | none
    return (← d.define path key, ← endLine rest)
  | rest =>
    match endLine rest with
    | some rest => some (d, rest)
    | none => do
      let ((path, key), rest) ← readKey rest
      let '=' :: rest := rest | none
      let (v, rest) ← readValue (2 * rest.length + 1) mostNested (skipSpace rest)
      return (← d.assign path key v, ← endLine rest)

/-- The document of some lines; `fuel` bounds their number. -/
def readLines : (fuel : Nat) → Document → List Char → Option Document
  | _, d, [] => some d
  | 0, _, _ => none
  | fuel + 1, d, cs => (d.readLine cs).bind fun r => readLines fuel r.1 r.2

end Document

/-- The mark that a text in Unicode may begin with. -/
def byteOrderMark : Char := '\uFEFF'

/-- A text without the mark it may begin with. -/
def dropMark : List Char → List Char
  | c :: rest => if c = byteOrderMark then rest else c :: rest
  | [] => []

/-- The members of the root of a document. -/
def read? (s : String) : Option Members :=
  let cs := dropMark s.toList
  (Document.readLines cs.length {} cs).map (·.members)

end DiskHealth.Toml
