import DiskHealth.Command.Options

/-!
Invocations: what the arguments of the command line ask for. Options of all commands may stand
before the name of the command; after it come its file and its options, in any order.
-/

namespace DiskHealth.Command

/-- What is done with a file of telemetry. -/
inductive Action where
  /-- Its readings are printed. -/
  | parse
  /-- Its devices become the items to be checked. -/
  | discover
  /-- The items are checked against it. -/
  | check
  deriving DecidableEq, Repr

def Action.ofName? (name : String) : Option Action :=
  if name = "parse" then some .parse
  else if name = "discover" then some .discover
  else if name = "check" then some .check
  else none

def commonFlags : List Flag :=
  [.config, .help, .version]

def Action.flags : Action → List Flag
  | parse => [.config, .help]
  | discover => [.config, .baselines, .help]
  | check => [.config, .baselines, .rateState, .item, .json, .help]

/-- A command with its file and its options. -/
structure Invocation where
  action : Action
  file : String
  config : Option String := none
  /-- The file of the baselines, unless the settings give it. -/
  baselines : Option String := none
  /-- The file of the rate state, unless the settings give it. -/
  rateState : Option String := none
  item : Option String := none
  asJson : Bool := false
  deriving DecidableEq, Repr

namespace Invocation

/-- The options before a command, its name, and the arguments after it. `pending` is an option that
takes the next argument. -/
def readCommon (g : Given) (pending : Option Flag) :
    List String → Except Halt (Given × String × List String)
  | [] => .error .refused
  | argument :: rest =>
    match pending, Word.of argument with
    | some f, .plain text => (g.add f text).bind fun g => readCommon g none rest
    | some _, _ => .error .refused
    | none, .plain name => .ok (g, name, rest)
    | none, word => (g.take commonFlags word).bind fun (g, pending) => readCommon g pending rest

/-- The one file among those before the end of all options and those after it. -/
def onlyFile (file : Option String) (after : List String) : Except Halt String :=
  match file.toList ++ after with
  | [file] => if file = "" then .error .refused else .ok file
  | _ => .error .refused

/-- The options of a command, and its file. -/
def readOwn (level : List Flag) (g : Given) (file : Option String) (pending : Option Flag) :
    List String → Except Halt (Given × String)
  | [] => if pending.isSome then .error .refused else (onlyFile file []).map (g, ·)
  | argument :: rest =>
    match pending, Word.of argument with
    | some f, .plain text => (g.add f text).bind fun g => readOwn level g file none rest
    | some _, _ => .error .refused
    | none, .escape => (onlyFile file rest).map (g, ·)
    | none, .plain text =>
      (onlyFile file [text]).bind fun file => readOwn level g (some file) none rest
    | none, word =>
      (g.take level word).bind fun (g, pending) => readOwn level g file pending rest

/-- The name of the command that only shows help. -/
def helpName : String :=
  "help"

/-- Whether help is asked for by a command: of the whole program, or of one command. -/
def helpFor : List String → Halt
  | [] => .help
  | [name] => if (Action.ofName? name).isSome ∨ name = helpName then .help else .refused
  | _ => .refused

def ofArguments (arguments : List String) : Except Halt Invocation := do
  let (common, name, rest) ← readCommon [] none arguments
  match Action.ofName? name with
  | none => .error (if name = helpName then helpFor rest else .refused)
  | some action =>
    let (own, file) ← readOwn action.flags [] none none rest
    return { action, file
             config := (own.value? .config).or (common.value? .config)
             baselines := own.value? .baselines
             rateState := own.value? .rateState
             item := own.value? .item
             asJson := (own.value? .json).isSome }

end Invocation

end DiskHealth.Command
