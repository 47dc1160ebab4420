import DiskHealth.Json.Value

/-!
The text of JSON values, in two styles that differ only in white space: compact text has none, and
pretty text puts every item on a line of its own, two spaces deeper than its container.
-/

namespace DiskHealth.Json

/-- The white space of printed text. -/
structure Style where
  /-- What stands before an item, or before the end of a container, at some depth. -/
  lineBreak : Nat → List Char
  /-- What stands between a key and its value, after the colon. -/
  afterColon : List Char

def Style.compact : Style :=
  ⟨fun _ => [], []⟩

/-- Every item on a line of its own. -/
def Style.pretty : Style :=
  ⟨fun depth => '\n' :: List.replicate (2 * depth) ' ', [' ']⟩

/-- A hexadecimal digit, in lower case. -/
def hexDigit (n : Nat) : Char :=
  Nat.digitChar (n % 16)

/-- A character as it stands between the quotes. Only quotes, backslashes and the characters below
the space are escaped. -/
def escape (c : Char) : List Char :=
  if c = '"' then ['\\', '"']
  else if c = '\\' then ['\\', '\\']
  else if c = '\x08' then ['\\', 'b']
  else if c = '\t' then ['\\', 't']
  else if c = '\n' then ['\\', 'n']
  else if c = '\x0c' then ['\\', 'f']
  else if c = '\r' then ['\\', 'r']
  else if c.toNat < 0x20 then ['\\', 'u', '0', '0', hexDigit (c.toNat / 16), hexDigit c.toNat]
  else [c]

def printText (s : String) : List Char :=
  '"' :: s.toList.flatMap escape ++ ['"']

/-- A literal, null in place of one that stands for no text. -/
def printLiteral : Option String → List Char
  | some s => printText s
  | none => ['n', 'u', 'l', 'l']

mutual

/-- The text of a value inside containers of some depth. -/
def Value.print (style : Style) (depth : Nat) : Value → List Char
  | .null => ['n', 'u', 'l', 'l']
  | .boolean true => ['t', 'r', 'u', 'e']
  | .boolean false => ['f', 'a', 'l', 's', 'e']
  | .number n => n.write
  | .text s => printLiteral s
  | .array [] => ['[', ']']
  | .array (v :: vs) =>
    '[' :: style.lineBreak (depth + 1) ++ Value.print style (depth + 1) v ++
      printItems style (depth + 1) vs ++ style.lineBreak depth ++ [']']
  | .object [] => ['{', '}']
  | .object ((k, v) :: ms) =>
    '{' :: style.lineBreak (depth + 1) ++ printLiteral k ++ ':' :: style.afterColon ++
      Value.print style (depth + 1) v ++ printMembers style (depth + 1) ms ++
      style.lineBreak depth ++ ['}']

/-- The text of the items of an array after the first. -/
def printItems (style : Style) (depth : Nat) : List Value → List Char
  | [] => []
  | v :: vs =>
    ',' :: style.lineBreak depth ++ Value.print style depth v ++ printItems style depth vs

/-- The text of the members of an object after the first. -/
def printMembers (style : Style) (depth : Nat) : List (Option String × Value) → List Char
  | [] => []
  | (k, v) :: ms =>
    ',' :: style.lineBreak depth ++ printLiteral k ++ ':' :: style.afterColon ++
      Value.print style depth v ++ printMembers style depth ms

end

def Value.compact (v : Value) : String :=
  String.ofList (v.print .compact 0)

def Value.pretty (v : Value) : String :=
  String.ofList (v.print .pretty 0)

end DiskHealth.Json
