import DiskHealth.Text.Blank

/-!
Options of the command line. An option is given by its long name or by a letter; one with a value
takes it from the same argument or from the next. A level of the command line knows some of the
options, and takes each at most once.
-/

namespace DiskHealth.Command

/-- An option. -/
inductive Flag where
  | config
  | baselines
  | rateState
  | item
  | json
  | help
  | version
  deriving DecidableEq, Repr

namespace Flag

def name : Flag → String
  | config => "config"
  | baselines => "baselines"
  | rateState => "rate-state"
  | item => "item"
  | json => "json"
  | help => "help"
  | version => "version"

def letter? : Flag → Option Char
  | config => some 'c'
  | item => some 'i'
  | help => some 'h'
  | version => some 'V'
  | _ => none

/-- Whether a value is given with it. -/
def takesValue : Flag → Bool
  | config | baselines | rateState | item => true
  | _ => false

/-- Whether a text can be its value. A path is never empty. -/
def admits (f : Flag) (value : String) : Bool :=
  f == item || value != ""

end Flag

/-- Why no command runs. -/
inductive Halt where
  | refused
  | help
  | version
  deriving DecidableEq, Repr

/-- The options that were given, with their values. -/
abbrev Given := List (Flag × String)

def Given.value? (g : Given) (f : Flag) : Option String :=
  (g.find? (·.1 == f)).map (·.2)

/-- The options with one more, unless it was given before. One that asks for something else than a
command halts at once. -/
def Given.add (g : Given) (f : Flag) (value : String) : Except Halt Given :=
  match f with
  | .help => .error .help
  | .version => .error .version
  | f =>
    if (g.value? f).isSome then .error .refused
    else if f.takesValue && !f.admits value then .error .refused
    else .ok (g ++ [(f, value)])

/-- What an argument can be. -/
inductive Word where
  /-- The end of all options. -/
  | escape
  /-- An option by its name, and the value in the same argument. -/
  | named (name : String) (value : Option String)
  /-- An option by its letter, and what follows the letter. -/
  | lettered (letter : Char) (rest : List Char)
  | plain (text : String)
  deriving DecidableEq, Repr

def Word.of (argument : String) : Word :=
  match argument.toList with
  | ['-', '-'] => .escape
  | '-' :: '-' :: rest =>
    match Text.splitAtFirst? '=' rest with
    | some (name, value) => .named (String.ofList name) (some (String.ofList value))
    | none => .named (String.ofList rest) none
  | '-' :: letter :: rest => .lettered letter rest
  | _ => .plain argument

/-- The option of a level with a name. -/
def byName? (level : List Flag) (name : String) : Option Flag :=
  level.find? (·.name == name)

/-- The option of a level with a letter. -/
def byLetter? (level : List Flag) (letter : Char) : Option Flag :=
  level.find? (·.letter? == some letter)

/-- The value that follows an option's letter in the same argument. -/
def attached? : List Char → Option String
  | [] => none
  | '=' :: rest => some (String.ofList rest)
  | rest => some (String.ofList rest)

/-- The options with one that a word names, and the option that takes the next argument as its
value, if the word has none for it. -/
def Given.take (g : Given) (level : List Flag) (word : Word) :
    Except Halt (Given × Option Flag) :=
  match word with
  | .named name value =>
    match byName? level name, value with
    | none, _ => .error .refused
    | some f, none => if f.takesValue then .ok (g, some f) else (g.add f "").map (·, none)
    | some f, some value =>
      if f.takesValue then (g.add f value).map (·, none) else .error .refused
  | .lettered letter rest =>
    match byLetter? level letter, attached? rest with
    | none, _ => .error .refused
    | some f, none => if f.takesValue then .ok (g, some f) else (g.add f "").map (·, none)
    | some f, some value => (g.add f value).map (·, none)
  | _ => .error .refused

end DiskHealth.Command
