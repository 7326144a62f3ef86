import Findings.Number.Decimal
import Findings.Store.Basic

/-!
# Statements

The statements on the tables with their constraints. A statement that changes findings changes
the lexical index with them, and one that deletes findings also deletes their embeddings. A
statement changes everything or fails before it changes anything.
-/
namespace Findings.Store

/-- The largest id that a finding can have. -/
def maxId : Int := Number.signedCount - 1

/-- A row in its place among rows of rising ids. -/
def placeRow (row : Row) : List Row → List Row
  | [] => [row]
  | other :: rest => if row.id < other.id then row :: other :: rest else other :: placeRow row rest

/-- The id that a new row gets. -/
def nextId : Action Int := do
  let store ← get
  if maxId ≤ store.lastId then fault .full
  return store.lastId + 1

/-- Adds a row for a session that has none. -/
def addSession (id : String) : Action Unit := do
  let sessions ← require "sessions" (← get).sessions
  unless sessions.any (·.id == id) do
    modify fun store => { store with sessions := some (sessions ++ [⟨id, none, none, none⟩]) }

/-- Adds a row of findings whose columns have passed their checks. -/
def insertRow (row : Row) : Action Unit := do
  let store ← get
  let findings ← require "findings" store.findings
  let sessions ← require "main.sessions" store.sessions
  let lexical ← require "main.findings_fts" store.lexical
  if findings.any (·.id == row.id) then fault .duplicateFinding
  unless sessions.any (·.id == row.session) do fault .foreignKey
  modify fun store => { store with
    findings := some (placeRow row findings)
    lexical := some (lexical ++ [row.entry])
    lastId := max store.lastId row.id }

/-- Deletes the rows of findings that are chosen, with their entries and embeddings, and counts
them. -/
def deleteRows (chosen : Row → Bool) : Action Nat := do
  let store ← get
  let findings ← require "findings" store.findings
  discard <| require "main.sessions" store.sessions
  let vectors ← require "main.finding_embeddings" store.vectors
  let lexical ← require "main.findings_fts" store.lexical
  let removed := findings.filter chosen
  modify fun store => { store with
    findings := some (findings.filter fun row => !chosen row)
    lexical := some (lexical.filter fun entry => !removed.any (·.id == entry.id))
    vectors := some (removed.foldl (fun table row => table.erase row.id) vectors) }
  return removed.length

/-- Changes the row of an id, if it exists, and its entry with it. -/
def updateRow (id : Int) (change : Row → Row) : Action Nat := do
  let store ← get
  let findings ← require "findings" store.findings
  let lexical ← require "main.findings_fts" store.lexical
  match findings.find? (·.id == id) with
  | none => return 0
  | some row =>
    let changed := change row
    modify fun store => { store with
      findings := some (findings.map fun other => if other.id = id then changed else other)
      lexical := some (lexical.map fun entry => if entry.id = id then changed.entry else entry) }
    return 1

def insertEmbedding (id : Int) (embedding : Record.Embedding) : Action Unit := do
  let vectors ← require "finding_embeddings" (← get).vectors
  let vectors ← liftFault (vectors.insert id embedding)
  modify fun store => { store with vectors := some vectors }

/-- Deletes the embedding of an id and tells whether there was one. -/
def deleteEmbedding (id : Int) : Action Bool := do
  let vectors ← require "finding_embeddings" (← get).vectors
  modify fun store => { store with vectors := some (vectors.erase id) }
  return (vectors.find? id).isSome

end Findings.Store
