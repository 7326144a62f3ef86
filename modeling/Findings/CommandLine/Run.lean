import Findings.CommandLine.Arguments
import Findings.Config.Load
import Findings.Record.Document
import Findings.Store.Read
import Findings.Store.Write

/-!
# Running commands

A command prints its report when it has succeeded and nothing before. Searching and ingesting
need an embedding model; without a hub to fetch it from they go as far as opening the store.
-/
namespace Findings.CommandLine

open Findings.Config
open Findings.Files
open Findings.Record
open Findings.Store

/-- What a command is run with: variables and the present time. -/
structure Setting where
  env : Environment
  now : String
  deriving Repr

def versionLine : String := "findex 0.1.0"

def report (lines : List String) : String := String.join (lines.map (· ++ "\n"))

def usage : String :=
  report
    ["Usage: findex [-c FILE] [-v] COMMAND", "", "Commands:", "  init",
      "  stats", "  search QUERY [-t TYPE] [--json]", "  ingest FILE",
      "  purge-session SESSION", "  config show", "  config validate [-f FILE]",
      "  config init [-f]"]

/-- A text with spaces behind it up to a width. -/
def padRight (width : Nat) (s : String) : String :=
  s ++ String.ofList (List.replicate (width - s.length) ' ')

def statsReport (path : String) (s : Stats) : List String :=
  ["=== findex statistics ===", "Database:   " ++ path, s!"Sessions:   {s.sessions}",
    s!"Findings:   {s.findings}", s!"Embeddings: {s.embeddings}", s!"Lexical:    {s.lexical}"] ++
    Kind.all.map fun kind =>
      let count := ((s.byKind.find? (·.1 == kind)).map (·.2)).getD 0
      s!"  {padRight 11 kind.name} {count}"

/-- The failure of loading the model of a configuration. -/
def failLoading {α : Type} (c : Config) : FileAction α :=
  throw (Model.loadFault c.model).error

def openConfigured (c : Config) : FileAction Handle := openAndApply c.dbPath c.dimension

def readFindings (path : String) : FileAction (List NewFinding) := do
  match (← get).readText path with
  | .error f => throw (.file (.readFindings path) f)
  | .ok text =>
    match NewFinding.readList? text with
    | none => throw (.findingsSyntax path)
    | some findings => return findings

/-- A path that was given, or else the usual one of the configuration. -/
def configPath (setting : Setting) (given : Option String) : FileAction String := do
  match given with
  | some path => return path
  | none =>
    match defaultPath setting.env (← get).system.home with
    | .ok path => return path
    | .error e => throw e

/-- Writes the usual configuration to a file that does not exist, or to any file by force. -/
def initConfig (setting : Setting) (path : String) (force : Bool) : FileAction Unit := do
  let tree ← get
  if tree.pathExists path && !force then throw (.setting (.configExists path))
  save (Config.default setting.env setting.now tree.system.home) path

/-- Runs a command and gives what it prints. -/
def execute (setting : Setting) (i : Invocation) : FileAction String := do
  match i.command with
  | .init =>
    let handle ← openConfigured (← effective setting.env setting.now i.config)
    return report
      ["✓ Database ready at " ++ handle.path, s!"  Embedding dimension: {handle.dimension}"]
  | .stats =>
    let handle ← openConfigured (← effective setting.env setting.now i.config)
    return report (statsReport handle.path (← onStore handle.path (stats handle)))
  | .search _ _ _ =>
    let config ← effective setting.env setting.now i.config
    discard <| openConfigured config
    failLoading config
  | .ingest file =>
    let config ← effective setting.env setting.now i.config
    discard <| readFindings file
    discard <| openConfigured config
    failLoading config
  | .purgeSession session =>
    let handle ← openConfigured (← effective setting.env setting.now i.config)
    let removed ← onStore handle.path (deleteSession handle session)
    return report [s!"✓ Removed {removed} findings from session {session}"]
  | .configShow =>
    let config ← effective setting.env setting.now i.config
    match write config with
    | .ok text => return report [text]
    | .error e => throw e
  | .configValidate file =>
    let path ← configPath setting (file.or i.config)
    discard <| load setting.env setting.now path
    return report ["✓ Configuration is valid: " ++ path]
  | .configInit force =>
    let path ← configPath setting i.config
    initConfig setting path force
    return report ["✓ Configuration written to " ++ path]

/-- The paths that an invocation names, and that of the usual configuration. -/
def namedPaths (setting : Setting) (i : Invocation) (tree : Tree) : List String :=
  let argument := match i.command with
    | .ingest file => some file
    | .configValidate file => file
    | _ => none
  i.config.toList ++ argument.toList ++ (defaultPath setting.env tree.system.home).toOption.toList

/-- The path of the store of an invocation, if its configuration can be had from the files. -/
def storePath? (setting : Setting) (i : Invocation) (tree : Tree) : Option String :=
  match effective setting.env setting.now i.config tree with
  | (.ok config, _) => some config.dbPath
  | _ => none

/-- How a run of the program ends. -/
inductive Outcome where
  | printed (text : String)
  | refused (fault : Fault)
  | failed (error : Error)
  deriving DecidableEq, Repr

def Outcome.exitCode : Outcome → Nat
  | .printed _ => 0
  | .refused .help => 0
  | .refused .version => 0
  | .refused _ => 2
  | .failed _ => 1

/-- Runs the program on the files with the arguments behind its name. -/
def run (setting : Setting) (args : List String) (tree : Tree) : Outcome × Tree :=
  match read args with
  | .error .version => (.printed (report [versionLine]), tree)
  | .error f => (.refused f, tree)
  | .ok invocation =>
    match execute setting invocation tree with
    | (.ok text, changed) => (.printed text, changed)
    | (.error e, changed) => (.failed e, changed)

end Findings.CommandLine
