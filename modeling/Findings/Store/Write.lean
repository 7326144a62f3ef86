import Findings.Store.Column
import Findings.Store.Schema
import Findings.Store.Statement

/-!
# Writing findings

Sessions and findings are written by these operations alone. Each is a whole: it succeeds, or it
fails and changes nothing.
-/
namespace Findings.Store

open Findings.Record
open Findings.Time

/-- Fails unless an embedding has the dimension of the handle. -/
def checkDimension (handle : Handle) (embedding : Embedding) : Action Unit := do
  if embedding.length ≠ handle.dimension then throw (.dimension handle.dimension embedding.length)

/-- Fails unless a new finding names its session, has a content, and its embedding fits. -/
def validate (handle : Handle) (f : NewFinding) (embedding : Option Embedding) : Action Unit := do
  if Text.isBlankText f.session then throw (.finding .blankSession)
  if Text.isBlankText f.content then throw (.finding .blankContent)
  match embedding with
  | some vector => checkDimension handle vector
  | none => return

/-- The row of a session after its metadata has been given: what is missing stays as it was. -/
def SessionRow.update (row : SessionRow) (s : Session) : SessionRow :=
  { row with
    project := s.project.or row.project
    startedAt := (s.startedAt.map Timestamp.columnText).or row.startedAt
    analyzedAt := some s.analyzedAt.columnText }

/-- Adds a session or completes its metadata. -/
def upsertSession (handle : Handle) (s : Session) : Action Unit := do
  ensureSchema handle
  let sessions ← require "sessions" (← get).sessions
  let rows :=
    if sessions.any (·.id == s.id) then
      sessions.map fun row => if row.id = s.id then row.update s else row
    else sessions ++ [SessionRow.update ⟨s.id, none, none, none⟩ s]
  modify fun store => { store with sessions := some rows }

/-- Adds a finding and, if it is given, its embedding. -/
def addFinding (f : NewFinding) (embedding : Option Embedding) : Action Int := do
  addSession f.session
  let id ← nextId
  insertRow (.ofNew id f)
  match embedding with
  | some vector => insertEmbedding id vector
  | none => pure ()
  return id

/-- Stores a new finding and gives its id. -/
def insert (handle : Handle) (f : NewFinding) (embedding : Option Embedding) : Action Int := do
  validate handle f embedding
  ensureSchema handle
  transaction (addFinding f embedding)

/-- Fails unless a new finding is of the session and may be stored. -/
def validateFor (handle : Handle) (session : String) (item : NewFinding × Embedding) :
    Action Unit := do
  if item.1.session ≠ session then throw (.finding (.otherSession item.1.session session))
  validate handle item.1 (some item.2)

/-- Stores new findings in place of those that a session has. -/
def replaceSession (handle : Handle) (session : String) (items : List (NewFinding × Embedding)) :
    Action (List Int) := do
  items.forM (validateFor handle session)
  ensureSchema handle
  transaction do
    discard <| deleteRows (·.session == session)
    items.mapM fun item => addFinding item.1 (some item.2)

/-- Gives a stored finding an embedding in place of the one it may have. -/
def setEmbedding (handle : Handle) (id : Int) (embedding : Embedding) : Action Unit := do
  checkDimension handle embedding
  ensureSchema handle
  transaction do
    let findings ← require "findings" (← get).findings
    unless findings.any (·.id == id) do throw (.finding (.missing id))
    discard <| deleteEmbedding id
    insertEmbedding id embedding

/-- Deletes a finding and tells whether there was one. -/
def delete (handle : Handle) (id : Int) : Action Bool := do
  ensureSchema handle
  return 0 < (← deleteRows (·.id == id))

/-- Deletes the findings of a session and counts them. -/
def deleteSession (handle : Handle) (session : String) : Action Nat := do
  ensureSchema handle
  deleteRows (·.session == session)

end Findings.Store
