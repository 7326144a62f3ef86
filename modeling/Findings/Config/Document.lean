import Findings.Config.Basic
import Findings.Json.Decode
import Findings.Json.Reader
import Findings.Number.Arithmetic
import Findings.Toml.Document
import Findings.Toml.Writer

/-!
# Configurations as documents

A configuration is written as a TOML document of four sections. It is read from such a document
or from JSON with the same names. The section of searches may be missing; timestamps that are
missing are the time of reading.
-/
namespace Findings.Config

open Findings.Number

/-- A value of a document, whichever language it is written in, by the kinds of values that a
configuration has. -/
structure Language (V : Type) where
  fields? : List Json.Field → V → Option (List (Option V))
  string? : V → Option String
  natural? : V → Option Nat
  double? : V → Option Double

def sections : List Json.Field :=
  [⟨"_meta", .required⟩, ⟨"storage", .required⟩, ⟨"embedding", .required⟩,
    ⟨"search", .defaulted⟩]

def metaFields : List Json.Field :=
  [⟨"schema_version", .required⟩, ⟨"created_at", .defaulted⟩, ⟨"last_modified", .defaulted⟩]

def storageFields : List Json.Field := [⟨"db_path", .required⟩]

def embeddingFields : List Json.Field := [⟨"model", .required⟩, ⟨"dimension", .required⟩]

def searchFields : List Json.Field :=
  [⟨"rrf_k", .required⟩, ⟨"vector_weight", .required⟩, ⟨"lexical_weight", .required⟩,
    ⟨"per_source_limit", .required⟩, ⟨"result_limit", .required⟩]

namespace Language

variable {V : Type}

def textOr (l : Language V) (missing : String) : Option V → Option String
  | none => some missing
  | some value => l.string? value

def readMeta (l : Language V) (now : String) (value : V) :
    Option (String × String × String) := do
  match ← l.fields? metaFields value with
  | [some version, created, modified] =>
    return (← l.string? version, ← l.textOr now created, ← l.textOr now modified)
  | _ => none

def readStorage (l : Language V) (value : V) : Option String := do
  match ← l.fields? storageFields value with
  | [some path] => l.string? path
  | _ => none

def readEmbedding (l : Language V) (value : V) : Option (String × Nat) := do
  match ← l.fields? embeddingFields value with
  | [some model, some dimension] => return (← l.string? model, ← l.natural? dimension)
  | _ => none

/-- The settings of searches; without the section they are the usual ones. -/
def readSearch (l : Language V) : Option V → Option Search.Settings
  | none => some {}
  | some value => do
    match ← l.fields? searchFields value with
    | [some constant, some vector, some lexical, some perSource, some result] =>
      return {
        constant := ← l.double? constant
        vectorWeight := ← l.double? vector
        lexicalWeight := ← l.double? lexical
        perSourceLimit := ← l.natural? perSource
        resultLimit := ← l.natural? result }
    | _ => none

/-- The configuration that a value spells. -/
def readConfig (l : Language V) (now : String) (value : V) : Option Config := do
  match ← l.fields? sections value with
  | [some about, some storage, some embedding, search] =>
    let (schemaVersion, createdAt, lastModified) ← l.readMeta now about
    let dbPath ← l.readStorage storage
    let (model, dimension) ← l.readEmbedding embedding
    let search ← l.readSearch search
    return { schemaVersion, createdAt, lastModified, dbPath, model, dimension, search }
  | _ => none

end Language

def json : Language Json.Value where
  fields? := fun declared value => value.fields? declared
  string? := Json.Value.string?
  natural? := Json.Value.natural?
  double? := Json.Value.double?

/-- The items of an array taken by the declared fields; further items are passed over. -/
def tomlItems : List Json.Field → List Toml.Value → Option (List (Option Toml.Value))
  | [], _ => some []
  | _ :: fields, item :: items => (tomlItems fields items).map (some item :: ·)
  | field :: fields, [] =>
    if field.presence = .defaulted then (tomlItems fields []).map (none :: ·) else none

/-- The values of the declared fields of a table, or of an array of them. -/
def tomlFields (declared : List Json.Field) : Toml.Value → Option (List (Option Toml.Value))
  | .table entries =>
    declared.mapM fun field =>
      match Toml.Value.get? field.name (.table entries) with
      | some value => some (some value)
      | none => if field.presence = .required then none else some none
  | .array items => tomlItems declared items
  | _ => none

/-- The values of TOML. A whole number may stand for a float. -/
def toml : Language Toml.Value where
  fields? := tomlFields
  string?
    | .string text => some text
    | _ => none
  natural?
    | .integer n => if 0 ≤ n then some n.toNat else none
    | _ => none
  double?
    | .float x => some x
    | .integer n => some (Binary.ofInt n)
    | _ => none

def readToml? (now text : String) : Option Config :=
  (Toml.read? text).bind (toml.readConfig now)

def readJson? (now text : String) : Option Config :=
  (Json.read? text).bind (json.readConfig now)

/-- A line that gives a value to a key. -/
def line (key : String) (value : List Char) : List Char :=
  key.toList ++ [' ', '=', ' '] ++ value ++ ['\n']

def heading (name : String) : List Char := '[' :: name.toList ++ [']', '\n']

def writeSections (c : Config) : List (List Char) :=
  [heading "_meta" ++ line "schema_version" (Toml.writeText c.schemaVersion) ++
      line "created_at" (Toml.writeText c.createdAt) ++
      line "last_modified" (Toml.writeText c.lastModified),
    heading "storage" ++ line "db_path" (Toml.writeText c.dbPath),
    heading "embedding" ++ line "model" (Toml.writeText c.model) ++
      line "dimension" (Toml.writeNatural c.dimension),
    heading "search" ++ line "rrf_k" (Toml.writeFloat c.search.constant) ++
      line "vector_weight" (Toml.writeFloat c.search.vectorWeight) ++
      line "lexical_weight" (Toml.writeFloat c.search.lexicalWeight) ++
      line "per_source_limit" (Toml.writeNatural c.search.perSourceLimit) ++
      line "result_limit" (Toml.writeNatural c.search.resultLimit)]

/-- The document of a configuration. A size above the largest whole number cannot be written. -/
def write (c : Config) : Except Error String :=
  if [c.dimension, c.search.perSourceLimit, c.search.resultLimit].all (· < signedCount) then
    .ok (String.ofList ((writeSections c).intersperse ['\n']).flatten)
  else .error .configTooLarge

end Findings.Config
