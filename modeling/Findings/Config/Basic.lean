import Findings.Fusion
import Findings.Model
import Findings.Number.Decimal
import Findings.Number.Shortest
import Findings.Vector.Nearest

/-!
# Configurations and their rules

A configuration says where the store is, which model gives the embeddings and how searches run. Each
rule that it violates is told once, in the order of the sections. A rule that only makes sense once
another one holds is passed over while that one is violated.
-/
namespace Findings

open Findings.Number

namespace Search

/-- The parameters of fusion, how many hits each source gives and how many results there are. -/
structure Settings where
  constant : Double := Binary.ofNat 60
  vectorWeight : Double := Binary.ofDecimal false 7 (-1)
  lexicalWeight : Double := Binary.ofDecimal false 3 (-1)
  perSourceLimit : Nat := 100
  resultLimit : Nat := 20
  deriving DecidableEq, Repr, Inhabited

/-- The fusion parameters of the settings, if they are allowed. -/
def Settings.fusion (s : Settings) : Except FusionFault FusionConfig :=
  FusionConfig.checked s.constant s.vectorWeight s.lexicalWeight

end Search

/-- A configuration: where the store is, which model gives the embeddings and how searches run. -/
structure Config where
  schemaVersion : String
  createdAt : String
  lastModified : String
  dbPath : String
  model : String
  dimension : Nat
  search : Search.Settings := {}
  deriving DecidableEq, Repr, Inhabited

/-- The one version of the layout of configurations. -/
def Config.currentVersion : String := "1.0.0"

namespace Config

/-- A violation unless a condition holds. -/
def unlessHolds (holds : Bool) (path message : String) : List Violation :=
  if holds then [] else [⟨path, message⟩]

def versionRule (c : Config) : List Violation :=
  unlessHolds (c.schemaVersion == currentVersion) "_meta.schema_version"
    ("Unsupported schema version: " ++ c.schemaVersion)

def storageRule (c : Config) : List Violation :=
  unlessHolds (!c.dbPath.isEmpty) "storage.db_path" "Database path cannot be empty"

/-- The rule that the model is supported and has the dimension. -/
def modelRule (c : Config) : List Violation :=
  match Model.dimension? c.model with
  | some dimension =>
    unlessHolds (dimension == c.dimension) "embedding.dimension"
      s!"Model {c.model} produces {dimension}-dimensional embeddings, configured {c.dimension}"
  | none => [⟨"embedding.model", "Unsupported model: " ++ c.model⟩]

def embeddingRules (c : Config) : List Violation :=
  unlessHolds (!c.model.isEmpty) "embedding.model" "Model name cannot be empty" ++
    unlessHolds (c.dimension != 0) "embedding.dimension"
      "Embedding dimension must be greater than 0" ++
    (if c.dimension = 0 || c.model.isEmpty then [] else modelRule c)

/-- The rule of a number that has to be positive. -/
def positiveRule (x : Double) (path name : String) : List Violation :=
  unlessHolds x.isPositive path (name ++ " must be positive, got " ++ x.plainText)

def perSourceRule (limit : Nat) : List Violation :=
  if limit = 0 then
    [⟨"search.per_source_limit", "Per-source limit must be greater than 0"⟩]
  else
    unlessHolds (limit ≤ Vector.maxNearest) "search.per_source_limit"
      s!"Per-source limit {limit} exceeds the maximum of {Vector.maxNearest}"

def resultRule (limit perSource : Nat) : List Violation :=
  if limit = 0 then [⟨"search.result_limit", "Result limit must be greater than 0"⟩]
  else
    unlessHolds (limit ≤ perSource) "search.result_limit"
      s!"Result limit {limit} exceeds per-source limit {perSource}"

def searchRules (s : Search.Settings) : List Violation :=
  positiveRule s.constant "search.rrf_k" "RRF k" ++
    positiveRule s.vectorWeight "search.vector_weight" "Weight" ++
    positiveRule s.lexicalWeight "search.lexical_weight" "Weight" ++
    perSourceRule s.perSourceLimit ++
    resultRule s.resultLimit s.perSourceLimit

/-- All violated rules in the order of the sections. -/
def violations (c : Config) : List Violation :=
  versionRule c ++ storageRule c ++ embeddingRules c ++ searchRules c.search

/-- Fails with the violated rules, if there are any. -/
def validate (c : Config) : Except Error Unit :=
  match violations c with
  | [] => .ok ()
  | found => .error (.invalidConfig found)

end Config

end Findings
