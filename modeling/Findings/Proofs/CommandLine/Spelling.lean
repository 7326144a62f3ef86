import Mathlib.Data.List.Nodup
import Mathlib.Tactic.Common
import Findings.CommandLine.Arguments

/-!
# Command lines that spell a command

A command line spells an invocation by the names of its command, by its options in any order, each
at most once, and by its plain argument behind two bare hyphens. The options of every level may
stand before, between and behind the names, the options of a command behind its last name only.
What a value or the plain argument looks like does not matter: it may look like an option, like a
name, or like nothing at all.
-/
namespace Findings.CommandLine

open Findings.Record

/-- An option with its value. -/
inductive Opt where
  | config (path : String)
  | verbose
  | kind (text : String)
  | json
  | file (path : String)
  | force
  deriving DecidableEq

namespace Opt

def flag : Opt → Flag
  | config _ => .config
  | verbose => .verbose
  | kind _ => .kind
  | json => .json
  | file _ => .file
  | force => .force

def name : Opt → String
  | config _ => "config"
  | verbose => "verbose"
  | kind _ => "type"
  | json => "json"
  | file _ => "file"
  | force => "force"

def value? : Opt → Option String
  | config path => some path
  | kind text => some text
  | file path => some path
  | _ => none

/-- Whether every level has the option. -/
def isGlobal : Opt → Bool
  | config _ => true
  | verbose => true
  | _ => false

end Opt

/-- The options that may be given by a letter alone. -/
inductive Letter where
  | verbose
  | force
  deriving DecidableEq

namespace Letter

def char : Letter → Char
  | verbose => 'v'
  | force => 'f'

def opt : Letter → Opt
  | verbose => .verbose
  | force => .force

end Letter

/-- An argument that gives options: one by its name, or some by their letters. -/
inductive Word where
  | named (option : Opt)
  | lettered (first : Letter) (rest : List Letter)
  deriving DecidableEq

namespace Word

def opts : Word → List Opt
  | named option => [option]
  | lettered first rest => (first :: rest).map Letter.opt

def text : Word → String
  | named option =>
    match option.value? with
    | some value => "--" ++ option.name ++ "=" ++ value
    | none => "--" ++ option.name
  | lettered first rest => "-" ++ String.ofList ((first :: rest).map Letter.char)

end Word

/-- The words of a level and the name that ends it. -/
structure Step where
  words : List Word
  name : String
  deriving DecidableEq

namespace Step

def opts (step : Step) : List Opt := step.words.flatMap Word.opts

def args (step : Step) : List String := step.words.map Word.text ++ [step.name]

end Step

namespace Command

def names : Command → List String
  | init => ["init"]
  | stats => ["stats"]
  | search _ _ _ => ["search"]
  | ingest _ => ["ingest"]
  | purgeSession _ => ["purge-session"]
  | configShow => ["config", "show"]
  | configValidate _ => ["config", "validate"]
  | configInit _ => ["config", "init"]

def argument? : Command → Option String
  | search query _ _ => some query
  | ingest file => some file
  | purgeSession session => some session
  | _ => none

def file? : Command → Option String
  | ingest file => some file
  | configValidate file => file
  | _ => none

def kind? : Command → Option Kind
  | search _ kind _ => kind
  | _ => none

/-- The options of a command, with a text for the kind that it asks for. -/
def opts (kindText : String) : Command → List Opt
  | search _ kind json =>
    (if kind.isSome then [.kind kindText] else []) ++ if json then [.json] else []
  | configValidate (some file) => [.file file]
  | configInit true => [.force]
  | _ => []

/-- What may stand behind the options of a command. -/
def endings (command : Command) : List (List String) :=
  match command.argument? with
  | some argument => [["--", argument]]
  | none => [[], ["--"]]

end Command

namespace Invocation

def opts (kindText : String) (i : Invocation) : List Opt :=
  i.config.toList.map .config ++ (if i.verbose then [.verbose] else []) ++ i.command.opts kindText

/-- The paths of an invocation are not empty. -/
structure HasPaths (i : Invocation) : Prop where
  config : i.config ≠ some ""
  file : i.command.file? ≠ some ""

end Invocation

/-- A command line by its parts. -/
structure Spelling where
  /-- The words before each name, with the name. -/
  steps : List Step
  /-- The words behind the last name. -/
  words : List Word
  /-- What stands behind the options. -/
  ending : List String

namespace Spelling

def args (s : Spelling) : List String :=
  s.steps.flatMap Step.args ++ (s.words.map Word.text ++ s.ending)

/-- The options before the last name. -/
def outer (s : Spelling) : List Opt := s.steps.flatMap Step.opts

/-- The options behind the last name. -/
def inner (s : Spelling) : List Opt := s.words.flatMap Word.opts

/-- A command line spells an invocation. -/
structure Spells (s : Spelling) (i : Invocation) : Prop where
  names : s.steps.map Step.name = i.command.names
  isGlobal : ∀ option ∈ s.outer, option.isGlobal = true
  opts : ∃ kindText, (∀ kind ∈ i.command.kind?, kindText.toLower = kind.name) ∧
    (s.outer ++ s.inner).Perm (i.opts kindText)
  ending : s.ending ∈ i.command.endings

end Spelling

/-- Every invocation has a spelling. -/
theorem Spelling.exists_spells (i : Invocation) : ∃ s : Spelling, s.Spells i := by
  let kindText := (i.command.kind?.map Kind.name).getD ""
  have hkind : ∀ kind ∈ i.command.kind?, kindText.toLower = kind.name := by
    intro kind hkind
    have hsome : i.command.kind? = some kind := hkind
    simp only [kindText, hsome, Option.map_some, Option.getD_some, Kind.toLower_name]
  have hending : ∃ ending, ending ∈ i.command.endings := by
    unfold Command.endings
    cases i.command.argument? with
    | some argument => exact ⟨_, List.mem_cons_self⟩
    | none => exact ⟨_, List.mem_cons_self⟩
  obtain ⟨ending, hending⟩ := hending
  let s : Spelling :=
    ⟨i.command.names.map (Step.mk []), (i.opts kindText).map .named, ending⟩
  have hnames : s.steps.map Step.name = i.command.names := by
    rw [List.map_map]
    exact List.map_id _
  have houter : s.outer = [] := by simp [s, outer, Step.opts]
  have hinner : s.inner = i.opts kindText := by
    simp [s, inner, List.flatMap_map, Word.opts]
  refine ⟨s, hnames, fun option hoption => ?_, ⟨kindText, hkind, ?_⟩, hending⟩
  · rw [houter] at hoption
    cases hoption
  · rw [houter, hinner]
    exact .refl _

end Findings.CommandLine
