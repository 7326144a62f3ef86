import Findings.Config.Document
import Findings.Config.Environment
import Findings.Files.Database

/-!
# Loading and saving configurations
-/
namespace Findings.Config

open Findings.Files

/-- The configuration in a file with the overrides of an environment, if it keeps the rules. -/
def load (env : Environment) (now path : String) : FileAction Config := do
  let tree ← get
  if !tree.pathExists path then throw (.configMissing path)
  match tree.readText path with
  | .error f => throw (.file (.readConfig path) f)
  | .ok text =>
    match readToml? now text with
    | none => throw .configSyntax
    | some config =>
      let config := config.overrideAll env
      match validate config with
      | .ok () => return config
      | .error e => throw e

/-- Writes a configuration to a file, with the directories above it. -/
def save (c : Config) (path : String) : FileAction Unit := do
  makeParent .createConfigDirectory path
  match write c with
  | .error e => throw e
  | .ok text =>
    match (← get).writeText path text with
    | .error f => throw (.file (.writeConfig path) f)
    | .ok tree => set tree

/-- The configuration of a user: from the given file, else from the usual one, else the usual
settings with the overrides of the environment. -/
def effective (env : Environment) (now : String) (path : Option String) : FileAction Config := do
  match path with
  | some path => load env now path
  | none =>
    let tree ← get
    match defaultPath env tree.system.home with
    | .error e => throw e
    | .ok path =>
      if tree.pathExists path then load env now path
      else
        let config := (default env now tree.system.home).overrideAll env
        match validate config with
        | .ok () => return config
        | .error e => throw e

end Findings.Config
