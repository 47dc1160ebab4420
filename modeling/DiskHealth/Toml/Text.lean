import DiskHealth.Numeral

/-!
Texts of TOML: basic ones in double quotes, with escapes, and literal ones in single quotes; each
also in triple quotes, where it may run over lines. A line break inside a text is kept as it is.
-/

namespace DiskHealth.Toml

/-- The characters that part words on a line. -/
def isSpace (c : Char) : Bool :=
  c == ' ' || c == '\t'

/-- The characters that may stand in texts and comments. -/
def isPlain (c : Char) : Bool :=
  c == '\t' || (0x20 ≤ c.toNat && c.toNat != 0x7F)

def lineBreak? : List Char → Option (List Char)
  | '\n' :: rest => some rest
  | '\r' :: '\n' :: rest => some rest
  | _ => none

/-- The rest after spaces and line breaks. -/
def skipBlank : List Char → List Char
  | '\n' :: rest => skipBlank rest
  | '\r' :: '\n' :: rest => skipBlank rest
  | c :: rest => if isSpace c then skipBlank rest else c :: rest
  | [] => []

/-- A text without the line break it may begin with. -/
def dropLineBreak (cs : List Char) : List Char :=
  (lineBreak? cs).getD cs

/-- The character with a code point in hexadecimal. -/
def codePoint? (digits : List Char) : Option Char :=
  (Numeral.natural? 16 digits).bind fun n =>
    if n < 0xD800 ∨ (0xE000 ≤ n ∧ n < 0x110000) then some (Char.ofNat n) else none

/-- The character escaped by a single letter or mark. -/
def shortEscape? (c : Char) : Option Char :=
  match c with
  | '"' => some '"'
  | '\\' => some '\\'
  | 'b' => some '\x08'
  | 'e' => some '\x1b'
  | 'f' => some '\x0c'
  | 'n' => some '\n'
  | 'r' => some '\r'
  | 't' => some '\t'
  | _ => none

/-- The character of an escape after its backslash, and the rest. -/
def readEscape : List Char → Option (Char × List Char)
  | 'x' :: a :: b :: rest => (codePoint? [a, b]).map (·, rest)
  | 'u' :: a :: b :: c :: d :: rest => (codePoint? [a, b, c, d]).map (·, rest)
  | 'U' :: a :: b :: c :: d :: e :: f :: g :: h :: rest =>
    (codePoint? [a, b, c, d, e, f, g, h]).map (·, rest)
  | c :: rest => (shortEscape? c).map (·, rest)
  | [] => none

/-- A basic text after its quote; `fuel` bounds the number of characters. -/
def readBasic : (fuel : Nat) → List Char → Option (List Char × List Char)
  | 0, _ => none
  | fuel + 1, cs =>
    match cs with
    | [] => none
    | '"' :: rest => some ([], rest)
    | '\\' :: rest => do
      let (c, rest) ← readEscape rest
      let (s, rest) ← readBasic fuel rest
      return (c :: s, rest)
    | c :: rest =>
      if isPlain c then (readBasic fuel rest).map fun r => (c :: r.1, r.2) else none

/-- A literal text after its quote. -/
def readLiteral : List Char → Option (List Char × List Char)
  | [] => none
  | '\'' :: rest => some ([], rest)
  | c :: rest => if isPlain c then (readLiteral rest).map fun r => (c :: r.1, r.2) else none

/-- The most quotes in a row at the end of a text in triple quotes, of which three close it. -/
def mostQuotes : Nat := 5

/-- The rest after a backslash at the end of a line, which takes all blanks up to the next text. -/
def joinLines? (cs : List Char) : Option (List Char) :=
  (lineBreak? (cs.dropWhile isSpace)).map skipBlank

/-- A text in triple quotes after its opening ones, with escapes or without; `fuel` bounds the
number of characters. -/
def readLong (quote : Char) (hasEscapes : Bool) :
    (fuel : Nat) → List Char → Option (List Char × List Char)
  | 0, _ => none
  | fuel + 1, cs =>
    match cs with
    | [] => none
    | c :: rest =>
      if c = quote then
        let quotes := ((c :: rest).takeWhile (· == quote)).take mostQuotes
        if 3 ≤ quotes.length then
          some (quotes.drop 3, (c :: rest).drop quotes.length)
        else (readLong quote hasEscapes fuel rest).map fun r => (c :: r.1, r.2)
      else if hasEscapes && c == '\\' then
        match joinLines? rest with
        | some rest => readLong quote hasEscapes fuel rest
        | none => do
          let (d, rest) ← readEscape rest
          let (s, rest) ← readLong quote hasEscapes fuel rest
          return (d :: s, rest)
      else
        if isPlain c || (lineBreak? (c :: rest)).isSome then
          (readLong quote hasEscapes fuel rest).map fun r => (c :: r.1, r.2)
        else none

/-- A text in double or single quotes on one line, which may be a key. -/
def readQuoted : List Char → Option (List Char × List Char)
  | '"' :: rest => readBasic (rest.length + 1) rest
  | '\'' :: rest => readLiteral rest
  | _ => none

def readText : List Char → Option (List Char × List Char)
  | '"' :: '"' :: '"' :: rest => readLong '"' true (rest.length + 1) (dropLineBreak rest)
  | '\'' :: '\'' :: '\'' :: rest => readLong '\'' false (rest.length + 1) (dropLineBreak rest)
  | cs => readQuoted cs

end DiskHealth.Toml
