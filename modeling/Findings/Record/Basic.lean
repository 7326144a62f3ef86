import Findings.Number.Binary
import Findings.Record.Kind
import Findings.Text.Character
import Findings.Time.Timestamp

/-!
# Records

Findings are extracted from sessions. A new finding gets its id when it is stored.
-/
namespace Findings.Record

open Findings.Time

/-- A vector of components that stands for a text. -/
abbrev Embedding := List Number.Single

/-- A finding before it is stored. -/
structure NewFinding where
  session : String
  kind : Kind
  content : String
  context : Option String := none
  severity : Severity
  tags : List String := []
  timestamp : Option Timestamp := none
  deriving DecidableEq, Repr, Inhabited

structure Finding extends NewFinding where
  id : Int
  deriving DecidableEq, Repr, Inhabited

structure Session where
  id : String
  project : Option String := none
  startedAt : Option Timestamp := none
  analyzedAt : Timestamp
  deriving DecidableEq, Repr, Inhabited

structure SearchQuery where
  text : String
  embedding : Embedding
  kind : Option Kind := none
  deriving DecidableEq, Repr, Inhabited

namespace NewFinding

/-- The text whose embedding stands for the finding: its content and, unless it is blank, its
context on a line of its own. -/
def embeddingText (f : NewFinding) : String :=
  match f.context with
  | some context =>
    if Text.isBlankText context then f.content else f.content ++ "\n" ++ context
  | none => f.content

end NewFinding

end Findings.Record
