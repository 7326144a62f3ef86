import Findings.Search.Sources
import Findings.Config.Basic
import Findings.Store.Read

/-!
# Hybrid search

A search runs by words and by embedding, fuses the two lists of hits and looks up the findings
of the best. A failing search by words counts as one without hits; every other failure fails the
search.
-/
namespace Findings.Search

open Findings.Number
open Findings.Record
open Findings.Store

/-- A found finding with its score and its places in the two lists. -/
structure Result where
  finding : Finding
  score : Double
  vectorRank : Option Nat
  lexicalRank : Option Nat
  deriving DecidableEq, Repr

/-- The results for candidates in their order. A candidate without a finding is passed over, and
so is one whose finding has been taken by an earlier one. -/
def attach : List Fused → List Finding → List Result
  | [], _ => []
  | candidate :: rest, findings =>
    match findings.find? (·.id == candidate.id) with
    | some finding =>
      ⟨finding, candidate.score, candidate.vectorRank, candidate.lexicalRank⟩ ::
        attach rest (findings.filter (·.id != candidate.id))
    | none => attach rest findings

/-- Looks up the findings of fused candidates. -/
def materialize (fused : List Fused) : Action (List Result) := do
  if fused.isEmpty then return []
  return attach fused (← lookUp (fused.map (·.id)))

/-- The hits of a search by words, none if it fails. -/
def wordHits (text : String) (limit : Nat) (kind : Option Kind) : Action (List WordHit) :=
  tryCatch (byWords text limit kind) fun _ => pure []

/-- The fusion parameters of settings, or the failure of a search with them. -/
def fusionOf (settings : Settings) : Action FusionConfig :=
  match settings.fusion with
  | .ok config => pure config
  | .error f => throw (.fusion f)

def search (handle : Handle) (settings : Settings) (query : SearchQuery) :
    Action (List Result) := do
  let config ← fusionOf settings
  ensureSchema handle
  if query.embedding.length ≠ handle.dimension then
    throw (.dimension handle.dimension query.embedding.length)
  let lexical ← wordHits query.text settings.perSourceLimit query.kind
  let vector ← byVector query.embedding handle.dimension settings.perSourceLimit query.kind
  materialize (fuse config (vector.map (·.id)) (lexical.map (·.id)) settings.resultLimit)

/-- What gives texts their embeddings: one for each text of a list. -/
abbrev Provider := List String → Except EmbeddingFault (List Embedding)

def Provider.embed (provider : Provider) (text : String) : Except EmbeddingFault Embedding :=
  match provider [text] with
  | .error f => .error f
  | .ok embeddings =>
    match embeddings.getLast? with
    | some embedding => .ok embedding
    | none => .error (.generation "No embedding generated")

/-- Searches for a text with the embedding that a provider gives it. -/
def searchText (handle : Handle) (settings : Settings) (text : String) (kind : Option Kind)
    (provider : Provider) : Action (List Result) := do
  match provider.embed text with
  | .error f => throw f.error
  | .ok embedding => search handle settings ⟨text, embedding, kind⟩

end Findings.Search
