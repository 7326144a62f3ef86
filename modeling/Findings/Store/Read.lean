import Findings.Store.Column
import Findings.Store.Schema

/-!
# Reading findings
-/
namespace Findings.Store

open Findings.Record

/-- The largest number of ids in one lookup. -/
def maxIds : Nat := 32766

def get? (handle : Handle) (id : Int) : Action (Option Finding) := do
  ensureSchema handle
  let findings ← require "findings" (← get).findings
  match findings.find? (·.id == id) with
  | none => return none
  | some row => return (← readRows [row]).head?

/-- The findings of the given ids that exist, in rising order of ids. -/
def lookUp (ids : List Int) : Action (List Finding) := do
  if ids.isEmpty then return []
  if maxIds < ids.length then fault .tooManyIds
  let findings ← require "findings" (← get).findings
  readRows (findings.filter fun row => ids.contains row.id)

/-- The findings of the given ids that exist, each once. -/
def getMany (handle : Handle) (ids : List Int) : Action (List Finding) := do
  ensureSchema handle
  lookUp ids

/-- The findings of a session in rising order of ids. -/
def listSession (handle : Handle) (session : String) : Action (List Finding) := do
  ensureSchema handle
  let findings ← require "findings" (← get).findings
  readRows (findings.filter (·.session == session))

structure Stats where
  sessions : Nat
  findings : Nat
  embeddings : Nat
  lexical : Nat
  byKind : List (Kind × Nat)
  deriving DecidableEq, Repr

/-- The distinct stored kinds in order of their texts. -/
def storedKinds (rows : List Row) : List String :=
  ((rows.map (·.kind)).eraseDups).mergeSort fun a b => decide (a ≤ b)

/-- How many rows have each stored kind, for the kinds that are read from the texts. -/
def kindCounts (rows : List Row) : Option (List (Kind × Nat)) :=
  (storedKinds rows).mapM fun text =>
    (Kind.ofText? text).map fun kind => (kind, rows.countP (·.kind == text))

/-- The count of each kind in the order of kinds; the last of several texts counts. -/
def countsByKind (counts : List (Kind × Nat)) : List (Kind × Nat) :=
  Kind.all.filterMap fun kind => counts.reverse.find? (·.1 == kind)

def stats (handle : Handle) : Action Stats := do
  ensureSchema handle
  let store ← get
  let sessions ← require "sessions" store.sessions
  let findings ← require "findings" store.findings
  let vectors ← require "finding_embeddings" store.vectors
  let lexical ← require "findings_fts_docsize" store.lexical
  match kindCounts findings with
  | none => fault .unreadable
  | some counts =>
    return ⟨sessions.length, findings.length, vectors.size, lexical.length, countsByKind counts⟩

end Findings.Store
