import Findings.Json.Decode
import Findings.Json.Reader
import Findings.Json.Writer
import Findings.Record.Basic
import Findings.Time.Printer
import Findings.Time.Reader

/-!
# Records as JSON documents

Each record is written as an object of its fields. It is read from such an object or from an
array of its fields.
-/
namespace Findings.Record

open Findings.Json
open Findings.Time

/-- A kind by its exact name. -/
def Kind.decode? (value : Value) : Option Kind := value.name?.bind ofName?

/-- A severity by its exact name. -/
def Severity.decode? (value : Value) : Option Severity := value.name?.bind ofName?

def decodeTimestamp? (value : Value) : Option Timestamp := value.string?.bind Timestamp.read?

def encodeTimestamp (t : Timestamp) : Value := .ofString t.text

def decodeTags? (value : Value) : Option (List String) := value.list? Value.string?

def encodeTags (tags : List String) : Value := .array (tags.map .ofString)

namespace NewFinding

def fields : List Field :=
  [⟨"session_id", .required⟩, ⟨"type", .required⟩, ⟨"content", .required⟩,
    ⟨"context", .defaulted⟩, ⟨"severity", .required⟩, ⟨"tags", .defaulted⟩,
    ⟨"session_timestamp", .defaulted⟩]

def ofFields? : List (Option Value) → Option NewFinding
  | [some session, some kind, some content, context, some severity, tags, timestamp] => do
    let session ← session.string?
    let kind ← Kind.decode? kind
    let content ← content.string?
    let context ← orMissing? Value.string? context
    let severity ← Severity.decode? severity
    let tags ← match tags with
      | none => some []
      | some tags => decodeTags? tags
    let timestamp ← orMissing? decodeTimestamp? timestamp
    return ⟨session, kind, content, context, severity, tags, timestamp⟩
  | _ => none

def decode? (value : Value) : Option NewFinding := (value.fields? fields).bind ofFields?

def entries (f : NewFinding) : List (String × Value) :=
  [("session_id", .ofString f.session), ("type", .ofString f.kind.name),
    ("content", .ofString f.content), ("context", .ofOption .ofString f.context),
    ("severity", .ofString f.severity.name), ("tags", encodeTags f.tags),
    ("session_timestamp", .ofOption encodeTimestamp f.timestamp)]

def encode (f : NewFinding) : Value := .record f.entries

def read? (s : String) : Option NewFinding := (Json.read? s).bind decode?

def readList? (s : String) : Option (List NewFinding) := (Json.read? s).bind (·.list? decode?)

def writeList (fs : List NewFinding) : String := Json.write (.array (fs.map encode))

end NewFinding

namespace Finding

def fields : List Field :=
  [⟨"id", .required⟩, ⟨"session_id", .required⟩, ⟨"type", .required⟩, ⟨"content", .required⟩,
    ⟨"context", .optional⟩, ⟨"severity", .required⟩, ⟨"tags", .required⟩,
    ⟨"session_timestamp", .optional⟩]

def decode? (value : Value) : Option Finding := do
  match ← value.fields? fields with
  | some id :: rest =>
    let id ← id.integer?
    let finding ← NewFinding.ofFields? rest
    return ⟨finding, id⟩
  | _ => none

def encode (f : Finding) : Value := .record (("id", .ofInt f.id) :: f.toNewFinding.entries)

def read? (s : String) : Option Finding := (Json.read? s).bind decode?

def write (f : Finding) : String := Json.write f.encode

end Finding

namespace Session

def fields : List Field :=
  [⟨"id", .required⟩, ⟨"project", .optional⟩, ⟨"started_at", .optional⟩,
    ⟨"analyzed_at", .required⟩]

def decode? (value : Value) : Option Session := do
  match ← value.fields? fields with
  | [some id, project, startedAt, some analyzedAt] =>
    let id ← id.string?
    let project ← orMissing? Value.string? project
    let startedAt ← orMissing? decodeTimestamp? startedAt
    let analyzedAt ← decodeTimestamp? analyzedAt
    return ⟨id, project, startedAt, analyzedAt⟩
  | _ => none

def encode (s : Session) : Value :=
  .record
    [("id", .ofString s.id), ("project", .ofOption .ofString s.project),
      ("started_at", .ofOption encodeTimestamp s.startedAt),
      ("analyzed_at", encodeTimestamp s.analyzedAt)]

def read? (s : String) : Option Session := (Json.read? s).bind decode?

def write (s : Session) : String := Json.write s.encode

end Session

namespace SearchQuery

def fields : List Field :=
  [⟨"text", .required⟩, ⟨"embedding", .required⟩, ⟨"type_filter", .optional⟩]

def decode? (value : Value) : Option SearchQuery := do
  match ← value.fields? fields with
  | [some text, some embedding, kind] =>
    let text ← text.string?
    let embedding ← embedding.list? Value.single?
    let kind ← orMissing? Kind.decode? kind
    return ⟨text, embedding, kind⟩
  | _ => none

def read? (s : String) : Option SearchQuery := (Json.read? s).bind decode?

end SearchQuery

end Findings.Record
