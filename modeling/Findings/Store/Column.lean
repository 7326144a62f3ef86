import Findings.Record.Document
import Findings.Store.Basic

/-!
# Columns of findings

How a finding is laid out in the columns of its row and read back from them. Tags are the text of
a list, and a finding without tags has none; a row is unreadable if one of its columns spells no
value.
-/
namespace Findings.Store

open Findings.Record
open Findings.Time

def tagsColumn (tags : List String) : Option String :=
  if tags.isEmpty then none else some (Json.write (encodeTags tags))

def readTags? : Option String → Option (List String)
  | none => some []
  | some text => (Json.read? text).bind decodeTags?

def readTimestamp? : Option String → Option (Option Timestamp)
  | none => some none
  | some text => (Timestamp.ofColumn? text).map some

def Row.ofNew (id : Int) (f : NewFinding) : Row :=
  { id
    session := f.session
    kind := f.kind.name
    content := f.content
    context := f.context
    severity := f.severity.name
    tags := tagsColumn f.tags
    timestamp := f.timestamp.map Timestamp.columnText }

def Row.finding? (row : Row) : Option Finding := do
  let tags ← readTags? row.tags
  let kind ← Kind.ofText? row.kind
  let severity ← Severity.ofText? row.severity
  let timestamp ← readTimestamp? row.timestamp
  return {
    id := row.id
    session := row.session
    kind
    content := row.content
    context := row.context
    severity
    tags
    timestamp }

/-- The findings that rows spell, if all of them do. -/
def readRows (rows : List Row) : Action (List Finding) :=
  match rows.mapM Row.finding? with
  | some findings => pure findings
  | none => fault .unreadable

end Findings.Store
