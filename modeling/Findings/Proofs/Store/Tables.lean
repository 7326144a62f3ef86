import Findings.Proofs.Vector.Table
import Findings.Store.Direct
import Findings.Store.Write

/-!
# Statements on a store with all of its tables

Once the schema has been applied no operation of the store removes a table. Each statement is
then a function from tables to tables, and these equations are all that later proofs use of a
statement.
-/
namespace Findings.Store

open Findings.Record

/-- The tables of a store whose schema has been applied. -/
structure Tables where
  sessions : List SessionRow
  findings : List Row
  lexical : List Lexical.Entry
  vectors : Vector.Table
  lastId : Int

namespace Tables

def store (t : Tables) : Store :=
  { migrated := true
    sessions := some t.sessions
    findings := some t.findings
    lexical := some t.lexical
    vectors := some t.vectors
    lastId := t.lastId }

/-- The tables that applying the schema makes. -/
def fresh (dimension : Nat) : Tables := ⟨[], [], [], .empty dimension, 0⟩

/-- The tables with a row for a session, added if it is missing. -/
def withSession (t : Tables) (id : String) : Tables :=
  if t.sessions.any (·.id == id) then t
  else { t with sessions := t.sessions ++ [⟨id, none, none, none⟩] }

/-- The tables with a row of findings more and its entry. -/
def withRow (t : Tables) (row : Row) : Tables :=
  { t with
    findings := placeRow row t.findings
    lexical := t.lexical ++ [row.entry]
    lastId := max t.lastId row.id }

/-- The tables without chosen rows of findings and what follows them. -/
def without (t : Tables) (chosen : Row → Bool) : Tables :=
  { t with
    findings := t.findings.filter fun row => !chosen row
    lexical := t.lexical.filter fun entry => !(t.findings.filter chosen).any (·.id == entry.id)
    vectors := (t.findings.filter chosen).foldl (fun table row => table.erase row.id) t.vectors }

/-- The tables with a row of findings in place of the one of its id, and its entry with it. -/
def withChanged (t : Tables) (changed : Row) : Tables :=
  { t with
    findings := t.findings.map fun other => if other.id = changed.id then changed else other
    lexical := t.lexical.map fun entry => if entry.id = changed.id then changed.entry else entry }

def withEmbedding (t : Tables) (id : Int) (embedding : Embedding) : Tables :=
  { t with vectors := t.vectors.put id embedding }

def withoutEmbedding (t : Tables) (id : Int) : Tables :=
  { t with vectors := t.vectors.erase id }

/-- The tables with a session added or completed. -/
def withMetadata (t : Tables) (s : Session) : Tables :=
  { t with sessions :=
      if t.sessions.any (·.id == s.id) then
        t.sessions.map fun row => if row.id = s.id then row.update s else row
      else t.sessions ++ [SessionRow.update ⟨s.id, none, none, none⟩ s] }

/-- The tables without a session and its findings. -/
def withoutSession (t : Tables) (id : String) : Tables :=
  { t.without (·.session == id) with sessions := t.sessions.filter (·.id != id) }

end Tables

open Tables

variable {t : Tables} {handle : Handle}

@[simp] theorem require_sessions (name : String) :
    require name t.store.sessions = pure t.sessions := rfl

@[simp] theorem require_findings (name : String) :
    require name t.store.findings = pure t.findings := rfl

@[simp] theorem require_lexical (name : String) :
    require name t.store.lexical = pure t.lexical := rfl

@[simp] theorem require_vectors (name : String) :
    require name t.store.vectors = pure t.vectors := rfl

@[simp] theorem ensureSchema_store : ensureSchema handle t.store = (.ok (), t.store) := rfl

@[simp] theorem applySchema_store : applySchema handle t.store = (.ok (), t.store) := rfl

/-- Checking the dimension changes nothing and compares it with the one of the schema. -/
theorem checkHandle_store : checkHandle handle t.store =
    if t.vectors.dimension = handle.dimension then (.ok (), t.store)
    else (.error (.dimension t.vectors.dimension handle.dimension), t.store) := by
  simp only [checkHandle, bind_apply, get_apply, store]
  split_ifs <;> simp_all

theorem applySchema_empty : applySchema handle {} =
    if maxDimension < handle.dimension then
      (.error (.table (.dimensionLimit handle.dimension)), {})
    else (.ok (), (fresh handle.dimension).store) := by
  simp [applySchema]
  rfl

@[simp] theorem addSession_store (id : String) :
    addSession id t.store = (.ok (), (t.withSession id).store) := by
  by_cases h : ∃ session ∈ t.sessions, session.id = id <;>
    simp [addSession, withSession, store, h]

@[simp] theorem nextId_store :
    nextId t.store =
      if maxId ≤ t.lastId then (.error (.table .full), t.store)
      else (.ok (t.lastId + 1), t.store) := by
  by_cases h : maxId ≤ t.lastId <;> simp [nextId, store, h]

theorem insertRow_store {row : Row} (hnew : ∀ other ∈ t.findings, other.id ≠ row.id)
    (hsession : ∃ session ∈ t.sessions, session.id = row.session) :
    insertRow row t.store = (.ok (), (t.withRow row).store) := by
  have hnew : ¬∃ other ∈ t.findings, other.id = row.id := by simpa using hnew
  simp [insertRow, store, withRow, hnew, hsession]

@[simp] theorem deleteRows_store (chosen : Row → Bool) :
    deleteRows chosen t.store = (.ok (t.findings.filter chosen).length, (t.without chosen).store) :=
  by simp [deleteRows, store, without]

theorem updateRow_store {id : Int} {row : Row} {change : Row → Row}
    (hrow : t.findings.find? (·.id == id) = some row) (hid : (change row).id = id) :
    updateRow id change t.store = (.ok 1, (t.withChanged (change row)).store) := by
  simp [updateRow, store, withChanged, hrow, hid]

theorem updateRow_store_none {id : Int} {change : Row → Row}
    (hrow : t.findings.find? (·.id == id) = none) :
    updateRow id change t.store = (.ok 0, t.store) := by
  simp [updateRow, store, hrow]

theorem insertEmbedding_store (id : Int) (embedding : Embedding) :
    insertEmbedding id embedding t.store =
      match t.vectors.insert id embedding with
      | .ok vectors => (.ok (), ({ t with vectors } : Tables).store)
      | .error f => (.error (.table f), t.store) := by
  cases h : t.vectors.insert id embedding <;> simp [insertEmbedding, store, h]

@[simp] theorem deleteEmbedding_store (id : Int) :
    deleteEmbedding id t.store =
      (.ok (t.vectors.find? id).isSome, (t.withoutEmbedding id).store) := by
  simp [deleteEmbedding, store, withoutEmbedding]

@[simp] theorem upsertSession_store (s : Session) :
    upsertSession handle s t.store = (.ok (), (t.withMetadata s).store) := by
  simp [upsertSession, ensureSchema, hasSchema, store, withMetadata]

@[simp] theorem delete_store (id : Int) :
    delete handle id t.store =
      (.ok (decide (0 < (t.findings.filter (·.id == id)).length)),
        (t.without (·.id == id)).store) := by
  simp [delete]

@[simp] theorem deleteSession_store (session : String) :
    deleteSession handle session t.store =
      (.ok (t.findings.filter (·.session == session)).length,
        (t.without (·.session == session)).store) := by
  simp [deleteSession]

end Findings.Store
