import Findings.Json.Decode
import Findings.Json.Reader
import Findings.Json.Writer
import Findings.Store.Basic

/-!
# Stores as documents

A store is kept in its file as one JSON document. A missing table is null, and so is a free slot
of a block of embeddings; the components of an embedding are written as their bits.
-/
namespace Findings.Store

open Findings.Json
open Findings.Number

/-- A text that may be missing. -/
def encodeText (text : Option String) : Value := .ofOption .ofString text

def encodeTable {α : Type} (encode : α → Value) : Option (List α) → Value
  | none => .null
  | some rows => .array (rows.map encode)

def decodeTable? {α : Type} (decode : Value → Option α) (value : Value) :
    Option (Option (List α)) :=
  value.orNull? (·.list? decode)

def decodeBool? : Value → Option Bool
  | .bool b => some b
  | _ => none

namespace SessionRow

def encode (row : SessionRow) : Value :=
  .array [.ofString row.id, encodeText row.project, encodeText row.startedAt,
    encodeText row.analyzedAt]

def decode? : Value → Option SessionRow
  | .array [id, project, startedAt, analyzedAt] => do
    return {
      id := ← id.string?
      project := ← project.orNull? Value.string?
      startedAt := ← startedAt.orNull? Value.string?
      analyzedAt := ← analyzedAt.orNull? Value.string? }
  | _ => none

end SessionRow

namespace Row

def encode (row : Row) : Value :=
  .array [.ofInt row.id, .ofString row.session, .ofString row.kind, .ofString row.content,
    encodeText row.context, .ofString row.severity, encodeText row.tags,
    encodeText row.timestamp]

def decode? : Value → Option Row
  | .array [id, session, kind, content, context, severity, tags, timestamp] => do
    return {
      id := ← id.integer?
      session := ← session.string?
      kind := ← kind.string?
      content := ← content.string?
      context := ← context.orNull? Value.string?
      severity := ← severity.string?
      tags := ← tags.orNull? Value.string?
      timestamp := ← timestamp.orNull? Value.string? }
  | _ => none

end Row

def encodeEntry (e : Lexical.Entry) : Value :=
  .array [.ofInt e.id, .ofString e.content, encodeText e.context, .ofString e.kind]

def decodeEntry? : Value → Option Lexical.Entry
  | .array [id, content, context, kind] => do
    return {
      id := ← id.integer?
      content := ← content.string?
      context := ← context.orNull? Value.string?
      kind := ← kind.string? }
  | _ => none

/-- An embedding by the bits of its components. -/
def encodeEmbedding (embedding : Record.Embedding) : Value :=
  .array (embedding.map fun x => .ofNat x.bits)

/-- An embedding by the bits of its components. -/
def decodeEmbedding? (value : Value) : Option Record.Embedding :=
  value.list? fun item => item.natural?.map Binary.ofBits

def encodeSlot (slot : Option Vector.Stored) : Value :=
  .ofOption (fun row => .array [.ofInt row.1, encodeEmbedding row.2]) slot

def decodeStored? : Value → Option Vector.Stored
  | .array [id, embedding] => do return (← id.integer?, ← decodeEmbedding? embedding)
  | _ => none

/-- The table of embeddings by its dimension and its blocks. -/
def encodeVectors (t : Vector.Table) : Value :=
  .array [.ofNat t.dimension, .array (t.blocks.map fun block => .array (block.map encodeSlot))]

/-- The table of embeddings by its dimension and its blocks. -/
def decodeVectors? : Value → Option Vector.Table
  | .array [dimension, blocks] => do
    return {
      dimension := ← dimension.natural?
      blocks := ← blocks.list? (·.list? (·.orNull? decodeStored?)) }
  | _ => none

def fields : List Field :=
  [⟨"migrated", .required⟩, ⟨"last_id", .required⟩, ⟨"sessions", .required⟩,
    ⟨"findings", .required⟩, ⟨"lexical", .required⟩, ⟨"embeddings", .required⟩]

def encode (store : Store) : Value :=
  .record
    [("migrated", .bool store.migrated), ("last_id", .ofInt store.lastId),
      ("sessions", encodeTable SessionRow.encode store.sessions),
      ("findings", encodeTable Row.encode store.findings),
      ("lexical", encodeTable encodeEntry store.lexical),
      ("embeddings", .ofOption encodeVectors store.vectors)]

def decode? (value : Value) : Option Store := do
  match ← value.fields? fields with
  | [some migrated, some lastId, some sessions, some findings, some lexical, some vectors] =>
    return {
      migrated := ← decodeBool? migrated
      lastId := ← lastId.integer?
      sessions := ← decodeTable? SessionRow.decode? sessions
      findings := ← decodeTable? Row.decode? findings
      lexical := ← decodeTable? decodeEntry? lexical
      vectors := ← vectors.orNull? decodeVectors? }
  | _ => none

def write (store : Store) : String := Json.write store.encode

def read? (text : String) : Option Store := (Json.read? text).bind decode?

@[simp] theorem orNull?_encodeText (text : Option String) :
    (encodeText text).orNull? Value.string? = some text := by
  cases text <;> rfl

theorem SessionRow.decode?_encode (row : SessionRow) :
    SessionRow.decode? row.encode = some row := by
  simp [encode, decode?, Value.ofString, Value.string?]

end Findings.Store
