import Findings.Store.Statement

/-!
# Direct statements

Statements that a keeper of the tables gives directly. They show the constraints of the columns:
a missing value is refused first, in the order of the columns, then a value that its column does
not allow, then an id that is taken, then a session that does not exist.
-/
namespace Findings.Store

/-- The kinds that the column of kinds allows, and the check as it is written. -/
def kindCheck : List String × String :=
  (["praise", "blocker", "suggestion", "nitpick"],
    "type IN ('praise', 'blocker', 'suggestion', 'nitpick')")

/-- The severities that the column of severities allows, and the check as it is written. -/
def severityCheck : List String × String :=
  (["low", "medium", "high"], "severity IN ('low', 'medium', 'high')")

/-- The value of a column that must have one. -/
def present (column : String) : Option String → Action String
  | some value => pure value
  | none => fault (.notNull column)

/-- Fails unless a column allows a value. -/
def allow (check : List String × String) (value : String) : Action Unit := do
  unless check.1.contains value do fault (.check check.2)

/-- The columns of a row to be inserted. -/
structure Draft where
  id : Option Int
  session : Option String
  kind : Option String
  content : Option String
  severity : Option String
  deriving DecidableEq, Repr

/-- The tables that have to exist for a row to be inserted. -/
def requireForInsert : Action Unit := do
  let store ← get
  discard <| require "findings" store.findings
  discard <| require "main.sessions" store.sessions
  discard <| require "main.findings_fts" store.lexical

def insertDraft (draft : Draft) : Action Nat := transaction do
  requireForInsert
  let id ← match draft.id with
    | some id => pure id
    | none => nextId
  let session ← present "session_id" draft.session
  let kind ← present "type" draft.kind
  let content ← present "content" draft.content
  let severity ← present "severity" draft.severity
  allow kindCheck kind
  allow severityCheck severity
  insertRow { id, session, kind, content, severity }
  return 1

/-- Fails unless the row of an id, if it exists, may have the values. -/
def checkTexts (id : Int) (kind content : Option String) : Action (String × String) := do
  let findings ← require "findings" (← get).findings
  discard <| require "main.findings_fts" (← get).lexical
  if findings.any (·.id == id) then
    let kind ← present "type" kind
    let content ← present "content" content
    allow kindCheck kind
    return (kind, content)
  else return ("", "")

/-- Changes the texts of a row. -/
def updateTexts (id : Int) (content context kind : Option String) : Action Nat := do
  let (kind, content) ← checkTexts id kind content
  updateRow id fun row => { row with content, context, kind }

/-- Changes the tags of a row to any text. -/
def setTags (id : Int) (tags : Option String) : Action Nat :=
  updateRow id fun row => { row with tags }

/-- Changes the timestamp of a row to any text. -/
def setTimestamp (id : Int) (timestamp : Option String) : Action Nat :=
  updateRow id fun row => { row with timestamp }

/-- Changes kind and severity of a row to any texts. -/
def forceNames (id : Int) (kind severity : Option String) : Action Nat := do
  let findings ← require "findings" (← get).findings
  discard <| require "main.findings_fts" (← get).lexical
  if findings.any (·.id == id) then
    let kind ← present "type" kind
    let severity ← present "severity" severity
    updateRow id fun row => { row with kind, severity }
  else return 0

/-- Adds an embedding whether or not there is such a finding. -/
def insertEmbeddingOnly (id : Int) (embedding : Record.Embedding) : Action Nat := do
  insertEmbedding id embedding
  return 1

/-- Deletes an embedding alone. -/
def deleteEmbeddingOnly (id : Int) : Action Nat := do
  return if ← deleteEmbedding id then 1 else 0

/-- Deletes a session with its findings and counts the sessions deleted. -/
def deleteSessionRow (id : String) : Action Nat := transaction do
  let sessions ← require "sessions" (← get).sessions
  if (← get).findings.isSome then
    if sessions.any (·.id == id) then discard <| deleteRows (·.session == id)
    else discard <| deleteRows fun _ => false
  modify fun store => { store with sessions := some (sessions.filter (·.id != id)) }
  return sessions.countP (·.id == id)

/-- The tables that can be dropped. -/
inductive TableName where
  | sessions
  | findings
  | lexical
  | vectors
  deriving DecidableEq, Repr

def drop : TableName → Action Unit
  | .sessions => do
    discard <| require "sessions" (← get).sessions
    modify fun store => { store with sessions := none }
  | .findings => do
    discard <| require "findings" (← get).findings
    modify fun store => { store with findings := none }
  | .lexical => do
    discard <| require "findings_fts" (← get).lexical
    modify fun store => { store with lexical := none }
  | .vectors => do
    discard <| require "finding_embeddings" (← get).vectors
    modify fun store => { store with vectors := none }

/-- The session rows in order of their ids. -/
def sessionRows : Action (List SessionRow) := do
  let sessions ← require "sessions" (← get).sessions
  return sessions.mergeSort fun a b => decide (a.id ≤ b.id)

def rowOf (id : Int) : Action Row := do
  let findings ← require "findings" (← get).findings
  match findings.find? (·.id == id) with
  | some row => return row
  | none => fault .noRow

end Findings.Store
