import Findings.Record.Kind

/-!
# Command lines

A command line names a command, and for some of them a command of that one. Each name opens a
level with options of its own; two options belong to every level. An option is a name behind two
hyphens or a letter behind one, and its value follows in the next argument, behind an equals
sign, or right behind the letter. Behind two bare hyphens everything is a plain argument.
-/
namespace Findings.CommandLine

open Findings.Record

/-- Why a command line is not run. -/
inductive Fault where
  | help
  | version
  | helpForMissing
  | unknownArgument
  | invalidCommand
  | missingArgument
  | missingCommand
  | repeated
  | invalidValue
  | refusedValue
  | tooManyValues
  deriving DecidableEq, Repr

def Fault.message : Fault → String
  | .help => "help is wanted"
  | .version => "the version is wanted"
  | .helpForMissing => "a command is required"
  | .unknownArgument => "an argument is not expected"
  | .invalidCommand => "a command is not known"
  | .missingArgument => "an argument is missing"
  | .missingCommand => "a command is missing"
  | .repeated => "an option is given twice"
  | .invalidValue => "an option lacks its value"
  | .refusedValue => "the value of an option is not allowed"
  | .tooManyValues => "an option takes no value"

/-- A command with what it was given. -/
inductive Command where
  | init
  | stats
  | search (query : String) (kind : Option Kind) (json : Bool)
  | ingest (file : String)
  | purgeSession (session : String)
  | configShow
  | configValidate (file : Option String)
  | configInit (force : Bool)
  deriving DecidableEq, Repr, Inhabited

/-- A command line: the command and the two options of every level. -/
structure Invocation where
  config : Option String
  verbose : Bool
  command : Command
  deriving DecidableEq, Repr, Inhabited

/-- The commands without further names. -/
inductive Leaf where
  | init
  | stats
  | search
  | ingest
  | purgeSession
  | configShow
  | configValidate
  | configInit
  deriving DecidableEq, Repr

/-- A level of a command line. -/
inductive Level where
  | root
  | config
  | leaf (command : Leaf)
  deriving DecidableEq, Repr

inductive Flag where
  | config
  | verbose
  | help
  | version
  | kind
  | json
  | file
  | force
  deriving DecidableEq, Repr

/-- What a command name leads to. -/
inductive Branch where
  | help
  | level (next : Level)
  deriving DecidableEq, Repr

namespace Level

def branches : Level → List (String × Branch)
  | .root =>
    [("init", .level (.leaf .init)), ("stats", .level (.leaf .stats)),
      ("search", .level (.leaf .search)), ("ingest", .level (.leaf .ingest)),
      ("purge-session", .level (.leaf .purgeSession)), ("config", .level .config),
      ("help", .help)]
  | .config =>
    [("show", .level (.leaf .configShow)), ("validate", .level (.leaf .configValidate)),
      ("init", .level (.leaf .configInit)), ("help", .help)]
  | .leaf _ => []

/-- What a command name leads to at a level. -/
def branch? (level : Level) (name : String) : Option Branch :=
  (level.branches.find? (·.1 == name)).map (·.2)

/-- The options of a level by their letters and names. -/
def flags : Level → List (Option Char × String × Flag)
  | level =>
    [(some 'c', "config", .config), (some 'v', "verbose", .verbose), (some 'h', "help", .help)] ++
      match level with
      | .root => [(some 'V', "version", .version)]
      | .leaf .search => [(some 't', "type", .kind), (none, "json", .json)]
      | .leaf .configValidate => [(some 'f', "file", .file)]
      | .leaf .configInit => [(some 'f', "force", .force)]
      | _ => []

def named? (level : Level) (name : String) : Option Flag :=
  (level.flags.find? (·.2.1 == name)).map (·.2.2)

def lettered? (level : Level) (letter : Char) : Option Flag :=
  (level.flags.find? (·.1 == some letter)).map (·.2.2)

def hasArgument : Level → Bool
  | .leaf .search => true
  | .leaf .ingest => true
  | .leaf .purgeSession => true
  | _ => false

end Level

def Flag.hasValue : Flag → Bool
  | .config => true
  | .kind => true
  | .file => true
  | _ => false

structure Given where
  config : Option String := none
  verbose : Bool := false
  kind : Option Kind := none
  json : Bool := false
  file : Option String := none
  force : Bool := false
  argument : Option String := none
  deriving DecidableEq, Repr

/-- What waits for its value to be complete: an option or the plain argument. -/
inductive Target where
  | flag (flag : Flag)
  | argument
  deriving DecidableEq, Repr

/-- Where the reader of a level stands. -/
structure State where
  given : Given := {}
  pending : Option (Target × Option String) := none
  /-- Whether the next argument may be the value of an option. -/
  awaiting : Bool := false
  /-- Whether two bare hyphens have been met. -/
  plainOnly : Bool := false
  /-- Whether the plain argument has been met. -/
  argumentTaken : Bool := false
  deriving DecidableEq, Repr

/-- A value that must be there. -/
def valueOf : Option String → Except Fault String
  | some value => .ok value
  | none => .error .invalidValue

/-- A path, which is not empty. -/
def pathOf (value : String) : Except Fault String :=
  if value.isEmpty then .error .invalidValue else .ok value

/-- Fails if an option has been met before. -/
def once (met : Bool) : Except Fault Unit :=
  if met then .error .repeated else .ok ()

/-- What a level has been given with an option or argument and its value. -/
def Given.accept (level : Level) (g : Given) (target : Target) (value : Option String) :
    Except Fault Given :=
  match target with
  | .flag .help => .error .help
  | .flag .version => .error .version
  | .flag .verbose => do
    once g.verbose
    return { g with verbose := true }
  | .flag .json => do
    once g.json
    return { g with json := true }
  | .flag .force => do
    once g.force
    return { g with force := true }
  | .flag .config => do
    let value ← valueOf value
    once g.config.isSome
    return { g with config := some (← pathOf value) }
  | .flag .file => do
    let value ← valueOf value
    once g.file.isSome
    return { g with file := some (← pathOf value) }
  | .flag .kind => do
    let value ← valueOf value
    once g.kind.isSome
    match Kind.ofText? value with
    | some kind => return { g with kind := some kind }
    | none => .error .refusedValue
  | .argument => do
    let value ← valueOf value
    let value ← if level = .leaf .ingest then pathOf value else .ok value
    return { g with argument := some value }

namespace State

/-- Takes what is pending. -/
def settle (level : Level) (s : State) : Except Fault State :=
  match s.pending with
  | none => .ok s
  | some (target, value) => do
    return { s with given := ← s.given.accept level target value, pending := none }

/-- Takes an option without a value, or with one that is attached to it. -/
def takeFlag (level : Level) (s : State) (flag : Flag) (value : Option String) :
    Except Fault State := do
  let s ← s.settle level
  return { s with given := ← s.given.accept level (.flag flag) value, awaiting := false }

/-- Waits for the value of an option. -/
def awaitValue (level : Level) (s : State) (flag : Flag) : Except Fault State := do
  let s ← s.settle level
  return { s with pending := some (.flag flag, none), awaiting := true }

def takeNamed (level : Level) (s : State) (name : String) (value : Option String) :
    Except Fault State :=
  match level.named? name with
  | none => .error .unknownArgument
  | some flag =>
    if flag.hasValue then
      match value with
      | some value => s.takeFlag level flag (some value)
      | none => s.awaitValue level flag
    else if value.isSome then .error .tooManyValues
    else s.takeFlag level flag none

/-- Takes options by their letters; what is behind a letter with a value is the value. -/
def takeLetters (level : Level) (s : State) : List Char → Except Fault State
  | [] => .ok s
  | letter :: rest =>
    match level.lettered? letter with
    | none => .error .unknownArgument
    | some flag =>
      if flag.hasValue then
        match rest with
        | [] => s.awaitValue level flag
        | '=' :: value => s.takeFlag level flag (some (String.ofList value))
        | value => s.takeFlag level flag (some (String.ofList value))
      else do
        let s ← s.takeFlag level flag none
        s.takeLetters level rest

def takeArgument (level : Level) (s : State) (value : String) : Except Fault State :=
  if level.hasArgument && !s.argumentTaken then do
    let s ← s.settle level
    return { s with
      pending := some (.argument, some value)
      awaiting := false
      argumentTaken := true }
  else if level.branches.isEmpty || (s.plainOnly && (level.branch? value).isSome) then
    .error .unknownArgument
  else .error .invalidCommand

/-- Takes an argument that is no command name. -/
def take (level : Level) (s : State) (value : String) : Except Fault State :=
  if s.plainOnly then s.takeArgument level value
  else
    match value.toList with
    | ['-', '-'] => .ok { s with plainOnly := true }
    | '-' :: '-' :: text =>
      let name := text.takeWhile (· != '=')
      let attached := text.dropWhile (· != '=')
      s.takeNamed level (String.ofList name)
        (if attached.isEmpty then none else some (String.ofList (attached.drop 1)))
    | '-' :: letter :: letters => s.takeLetters level (letter :: letters)
    | _ =>
      match s.awaiting, s.pending with
      | true, some (target, _) =>
        .ok { s with pending := some (target, some value), awaiting := false }
      | _, _ => s.takeArgument level value

/-- The branch that an argument names where a command may stand. -/
def branch? (level : Level) (s : State) (value : String) : Option Branch :=
  if s.plainOnly || s.awaiting then none else level.branch? value

end State

/-- Takes the arguments of a level up to its command name, if there is one. -/
def readLevel (level : Level) (s : State) :
    List String → Except Fault (State × Option (Branch × List String))
  | [] => .ok (s, none)
  | value :: rest =>
    match s.branch? level value with
    | some branch => .ok (s, some (branch, rest))
    | none => (s.take level value).bind (readLevel level · rest)

/-- The help that names lead to, or the failure of a name. -/
def helpFor : Level → List String → Fault
  | _, [] => .help
  | level, name :: names =>
    match level.branch? name with
    | none => .invalidCommand
    | some .help => if names.isEmpty then .help else .invalidCommand
    | some (.level next) => helpFor next names

/-- The command of a leaf with what it was given. -/
def Leaf.command (leaf : Leaf) (g : Given) : Except Fault Command :=
  match leaf, g.argument with
  | .init, _ => .ok .init
  | .stats, _ => .ok .stats
  | .search, some query => .ok (.search query g.kind g.json)
  | .ingest, some file => .ok (.ingest file)
  | .purgeSession, some session => .ok (.purgeSession session)
  | .configShow, _ => .ok .configShow
  | .configValidate, _ => .ok (.configValidate g.file)
  | .configInit, _ => .ok (.configInit g.force)
  | _, none => .error .missingArgument

/-- The failure of a level that lacks its command. -/
def missingCommand (g : Given) : Fault :=
  if g.config.isNone && !g.verbose then .helpForMissing else .missingCommand

/-- An invocation with the options of an outer level: the inner path stays. -/
def Invocation.under (i : Invocation) (g : Given) : Invocation :=
  { i with config := i.config.or g.config, verbose := i.verbose || g.verbose }

/-- Reads a level and the levels below it, of which there are at most `depth`. -/
def readFrom : Nat → Level → List String → Except Fault Invocation
  | 0, _, _ => .error .invalidCommand
  | depth + 1, level, args => do
    match ← readLevel level {} args with
    | (_, some (.help, names)) => .error (helpFor level names)
    | (s, some (.level next, rest)) =>
      let inner ← readFrom depth next rest
      let s ← s.settle level
      return inner.under s.given
    | (s, none) =>
      let s ← s.settle level
      match level with
      | .leaf leaf =>
        let command ← leaf.command s.given
        return ⟨s.given.config, s.given.verbose, command⟩
      | _ => .error (missingCommand s.given)

/-- Reads a command line without the name of the program. -/
def read (args : List String) : Except Fault Invocation := readFrom 3 .root args

end Findings.CommandLine
