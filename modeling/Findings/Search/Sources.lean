import Findings.Lexical.Escape
import Findings.Lexical.Query
import Findings.Store.Basic
import Findings.Vector.Nearest

/-!
# The two sources of hits

The words of a free text become the phrases that a finding has to contain. A word without a
token is passed over. A filter by kind acts after the scores have been computed from all
findings and before the hits are cut off.

A search by embedding counts all stored embeddings if it has no filter and asks for no more hits
than the largest bounded search. Otherwise the embeddings of the wanted findings are scanned.
-/
namespace Findings.Search

open Findings.Lexical
open Findings.Number
open Findings.Record
open Findings.Store
open Findings.Vector

/-- A finding found by its words, with its place counted from one. -/
structure WordHit where
  id : Int
  rank : Nat
  score : Double
  deriving DecidableEq, Repr

def phrases (words : List (List Char)) : List Phrase :=
  (words.map tokens).filter (!·.isEmpty)

/-- Whether a finding exists and is of a kind, if one is wanted. -/
def isWanted (findings : List Row) (kind : Option Kind) (id : Int) : Bool :=
  findings.any fun row => row.id == id && kind.all (row.kind == ·.name)

/-- Scored ids with their places. -/
def placed : Nat → List (Int × Double) → List WordHit
  | _, [] => []
  | rank, (id, score) :: rest => ⟨id, rank, score⟩ :: placed (rank + 1) rest

/-- At most `limit` findings that contain the words of a text, the best first. -/
def byWords (text : String) (limit : Nat) (kind : Option Kind) : Action (List WordHit) := do
  match escape text with
  | none => return []
  | some query =>
    let entries ← require "findings_fts" (← get).lexical
    let findings ← require "findings" (← get).findings
    if limit = 0 then return []
    let words ← liftFault (queryWords query)
    let hits := ranked (entries.map Entry.indexed) (phrases words)
    return placed 1 ((hits.filter fun hit => isWanted findings kind hit.1).take limit)

/-- At most `limit` findings whose embeddings are nearest to a query of the given dimension. -/
def byVector (query : Embedding) (dimension limit : Nat) (kind : Option Kind) :
    Action (List Hit) := do
  if query.length ≠ dimension then throw (.dimension dimension query.length)
  if limit = 0 then return []
  let table ← require "finding_embeddings" (← get).vectors
  if table.rows.isEmpty then return []
  if kind.isNone && limit ≤ maxNearest then
    liftFault (boundedSearch table query limit)
  else
    let findings ← require "findings" (← get).findings
    liftFault (fullScan table query (isWanted findings kind) limit)

end Findings.Search
