import Findings.Config.Basic
import Findings.Files.Path
import Findings.Number.Decimal

/-!
# The environment

Variables can override single settings, and they decide where the files of the user are. A
number that is not an unsigned word overrides nothing.
-/
namespace Findings.Config

/-- Variables with their values. -/
abbrev Environment := List (String × String)

/-- The variables that mean something here. -/
def variableNames : List String :=
  ["FINDEX_STORAGE__DB_PATH", "FINDEX_EMBEDDING__MODEL", "FINDEX_EMBEDDING__DIMENSION",
    "FINDEX_SEARCH__PER_SOURCE_LIMIT", "FINDEX_SEARCH__RESULT_LIMIT", "HOME",
    "XDG_CONFIG_HOME", "XDG_DATA_HOME"]

def Environment.get? (env : Environment) (name : String) : Option String :=
  (env.find? (·.1 == name)).map (·.2)

/-- The configuration behind the value of one variable. -/
def override (c : Config) (name value : String) : Config :=
  match name with
  | "FINDEX_STORAGE__DB_PATH" => { c with dbPath := value }
  | "FINDEX_EMBEDDING__MODEL" => { c with model := value }
  | "FINDEX_EMBEDDING__DIMENSION" =>
    { c with dimension := (Number.word? value).getD c.dimension }
  | "FINDEX_SEARCH__PER_SOURCE_LIMIT" =>
    { c with search.perSourceLimit := (Number.word? value).getD c.search.perSourceLimit }
  | "FINDEX_SEARCH__RESULT_LIMIT" =>
    { c with search.resultLimit := (Number.word? value).getD c.search.resultLimit }
  | _ => c

/-- The configuration with all overrides of an environment. -/
def overrideAll (c : Config) (env : Environment) : Config :=
  env.foldl (fun c entry => c.override entry.1 entry.2) c

/-- The directory that a variable names, if it is absolute. -/
def absoluteVariable? (env : Environment) (name : String) : Option String :=
  (env.get? name).filter Files.isAbsolute

/-- The home directory: that of the environment, or else that of the account. -/
def home? (env : Environment) (account : Option String) : Option String :=
  ((env.get? "HOME").filter (!·.isEmpty)).or account

def defaultPath (env : Environment) (account : Option String := none) : Except Error String :=
  let directory := (absoluteVariable? env "XDG_CONFIG_HOME").or
    ((home? env account).map (Files.join · ".config"))
  match directory with
  | some path => .ok (Files.join (Files.join path "findex") "config.toml")
  | none => .error (.setting .noConfigDirectory)

/-- The path of the store of the user. -/
def defaultDbPath (env : Environment) (account : Option String := none) : Except Error String :=
  let directory := (absoluteVariable? env "XDG_DATA_HOME").or
    ((home? env account).map (Files.join · ".local/share"))
  match directory with
  | some path => .ok (Files.join (Files.join path "findex") "findings.db")
  | none => .error (.setting .noDataDirectory)

/-- The configuration of a user who has given none. -/
def default (env : Environment) (now : String) (account : Option String := none) : Config :=
  { schemaVersion := currentVersion
    createdAt := now
    lastModified := now
    dbPath := (defaultDbPath env account).toOption.getD (Files.join "findex" "findings.db")
    model := Model.defaultName
    dimension := 384 }

end Findings.Config
