import DiskHealth.Text.Unprinted

/-!
Quoted text, as error messages show it: in double quotes, with a backslash before a quote or a
backslash, short escapes for tab, return, line feed and null, and `\u{…}` with the code point in
hexadecimal for every other character that is not printed as it stands.
-/

namespace DiskHealth.Text

/-- The code point of a character in lower-case hexadecimal, without leading zeros. -/
def hexCode (c : Char) : List Char :=
  Nat.toDigits 16 c.toNat

/-- A character shown by its number. -/
def byNumber (c : Char) : List Char :=
  '\\' :: 'u' :: '{' :: hexCode c ++ ['}']

/-- Whether quoted text shows a character by its number, unless it has a short escape. -/
def isShownByNumber (c : Char) : Bool :=
  c.toNat < 0x20 || (0x7F ≤ c.toNat && isUnprinted c)

/-- A character as it stands between the quotes. -/
def quoteChar (c : Char) : List Char :=
  if c = '"' then ['\\', '"']
  else if c = '\\' then ['\\', '\\']
  else if c = '\t' then ['\\', 't']
  else if c = '\r' then ['\\', 'r']
  else if c = '\n' then ['\\', 'n']
  else if c = '\x00' then ['\\', '0']
  else if isShownByNumber c then byNumber c
  else [c]

/-- A text in double quotes, with its characters escaped where they need it. -/
def quote (s : String) : String :=
  String.ofList ('"' :: s.toList.flatMap quoteChar ++ ['"'])

end DiskHealth.Text
