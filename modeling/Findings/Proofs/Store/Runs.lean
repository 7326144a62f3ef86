import Findings.Proofs.Store.Statistics
import Findings.Proofs.Store.Writing

/-!
# Runs of operations

A store is used by opening it, applying the schema, and reading and writing; a keeper of the tables
may also remove a row of sessions or change the texts of a finding. A run performs such operations
one after another, and each of them may fail. From a fresh schema on the tables stay coherent in
every run, whatever the operations are given.
-/
namespace Findings.Store

open Findings.Record
open Tables

/-- What can be done to a store, with all that is given to it. -/
inductive Operation where
  | reopen (handle : Handle)
  | applySchema (handle : Handle)
  | upsertSession (handle : Handle) (s : Session)
  | insert (handle : Handle) (f : NewFinding) (embedding : Option Embedding)
  | replaceSession (handle : Handle) (session : String) (items : List (NewFinding × Embedding))
  | setEmbedding (handle : Handle) (id : Int) (embedding : Embedding)
  | delete (handle : Handle) (id : Int)
  | deleteSession (handle : Handle) (session : String)
  | deleteSessionRow (session : String)
  | updateTexts (id : Int) (content context kind : Option String)

namespace Operation

def action : Operation → Action Unit
  | reopen handle => checkHandle handle
  | applySchema handle => Store.applySchema handle
  | upsertSession handle s => Store.upsertSession handle s
  | insert handle f embedding => discard (Store.insert handle f embedding)
  | replaceSession handle session items => discard (Store.replaceSession handle session items)
  | setEmbedding handle id embedding => Store.setEmbedding handle id embedding
  | delete handle id => discard (Store.delete handle id)
  | deleteSession handle session => discard (Store.deleteSession handle session)
  | deleteSessionRow session => discard (Store.deleteSessionRow session)
  | updateTexts id content context kind => discard (Store.updateTexts id content context kind)

def applies : Operation → Bool
  | applySchema _ => true
  | _ => false

/-- The store after an operation, whether or not it failed. -/
def perform (s : Store) (operation : Operation) : Store := (operation.action s).2

end Operation

open Operation

/-- The store after operations, one after another. -/
def run (operations : List Operation) (s : Store) : Store := operations.foldl perform s

/-- A store that operations have made from nothing. -/
def Reachable (s : Store) : Prop := ∃ operations, s = run operations {}

/-- A store of coherent tables for embeddings of a dimension. -/
def Sound (dimension : Nat) (s : Store) : Prop :=
  ∃ t : Tables, s = t.store ∧ Coherent t ∧ t.vectors.dimension = dimension

variable {t : Tables}

lemma Coherent.sound (h : Coherent t) : Sound t.vectors.dimension t.store := ⟨t, rfl, h, rfl⟩

/-- An operation that fails changes nothing. -/
theorem Operation.atomic (operation : Operation) : Atomic operation.action := by
  cases operation with
  | reopen handle => exact (readOnly_checkHandle handle).atomic
  | applySchema handle => exact atomic_applySchema handle
  | upsertSession handle s => exact atomic_upsertSession handle s
  | insert handle f embedding => exact (atomic_insert handle f embedding).discard
  | replaceSession handle session items =>
    exact (atomic_replaceSession handle session items).discard
  | setEmbedding handle id embedding => exact atomic_setEmbedding handle id embedding
  | delete handle id => exact (atomic_delete handle id).discard
  | deleteSession handle session => exact (atomic_deleteSession handle session).discard
  | deleteSessionRow session => exact (atomic_deleteSessionRow session).discard
  | updateTexts id content context kind =>
    exact (atomic_updateTexts id content context kind).discard

lemma discard_eq_ok {α : Type} {x : Action α} {s u : Store}
    (h : (discard x : Action Unit) s = (.ok (), u)) : ∃ a, x s = (.ok a, u) := by
  rw [discard_apply] at h
  rcases hxs : x s with ⟨_ | a, v⟩ <;> rw [hxs] at h <;> cases h
  exact ⟨a, rfl⟩

/-- What operations that succeed make of coherent tables. -/
inductive Makes (t : Tables) : Operation → Tables → Prop
  | reopen (handle : Handle) : Makes t (.reopen handle) t
  | applySchema (handle : Handle) : Makes t (.applySchema handle) t
  | upsertSession (handle : Handle) (s : Session) :
    Makes t (.upsertSession handle s) (t.withMetadata s)
  | insert {handle : Handle} {f : NewFinding} {embedding : Option Embedding}
    (room : t.lastId < maxId) (fits : ∀ vector ∈ embedding, t.Fits vector)
    (told : Store.insert handle f embedding t.store =
      (.ok (t.lastId + 1), (t.added f embedding).store)) :
    Makes t (.insert handle f embedding) (t.added f embedding)
  | replaceSession {handle : Handle} {session : String} {items : List (NewFinding × Embedding)}
    {ids : List Int} (told : Store.replaceSession handle session items t.store =
      (.ok ids, ((t.without (·.session == session)).addedAll items).store)) :
    Makes t (.replaceSession handle session items)
      ((t.without (·.session == session)).addedAll items)
  | setEmbedding {handle : Handle} {id : Int} {embedding : Embedding}
    (live : ∃ row ∈ t.findings, row.id = id) (fits : t.Fits embedding) :
    Makes t (.setEmbedding handle id embedding)
      ((t.withoutEmbedding id).withEmbedding id embedding)
  | delete (handle : Handle) (id : Int) : Makes t (.delete handle id) (t.without (·.id == id))
  | deleteSession (handle : Handle) (session : String) :
    Makes t (.deleteSession handle session) (t.without (·.session == session))
  | deleteSessionRow (session : String) :
    Makes t (.deleteSessionRow session) (t.withoutSession session)
  | updateNothing (id : Int) (content context kind : Option String) :
    Makes t (.updateTexts id content context kind) t
  | updateTexts {id : Int} {content context kind : Option String} {row : Row}
    (live : row ∈ t.findings) (k : Kind) (text : String) :
    Makes t (.updateTexts id content context kind)
      (t.withChanged { row with content := text, context, kind := k.name })

/-- All that an operation on coherent tables can do if it succeeds. -/
theorem makes_of_ok (h : Coherent t) {operation : Operation} {s : Store}
    (hok : operation.action t.store = (.ok (), s)) : ∃ u, s = u.store ∧ Makes t operation u := by
  cases operation with
  | reopen handle =>
    have hread := readOnly_checkHandle handle t.store
    rw [show checkHandle handle t.store = _ from hok] at hread
    exact ⟨t, hread, .reopen handle⟩
  | applySchema handle => exact ⟨t, (congrArg Prod.snd hok).symm, .applySchema handle⟩
  | upsertSession handle session =>
    have hstore := congrArg Prod.snd ((upsertSession_store session).symm.trans hok)
    exact ⟨_, hstore.symm, .upsertSession handle session⟩
  | insert handle f embedding =>
    obtain ⟨id, hok⟩ := discard_eq_ok hok
    obtain ⟨hlast, hfits, rfl, rfl⟩ := insert_store h hok
    exact ⟨_, rfl, .insert hlast hfits hok⟩
  | replaceSession handle session items =>
    obtain ⟨ids, hok⟩ := discard_eq_ok hok
    obtain ⟨rfl, -, -⟩ := replaceSession_store h hok
    exact ⟨_, rfl, .replaceSession hok⟩
  | setEmbedding handle id embedding =>
    obtain ⟨hlive, hfits, rfl⟩ := setEmbedding_store hok
    exact ⟨_, rfl, .setEmbedding hlive hfits⟩
  | delete handle id =>
    obtain ⟨existed, hok⟩ := discard_eq_ok hok
    have hstore := congrArg Prod.snd ((delete_store id).symm.trans hok)
    exact ⟨_, hstore.symm, .delete handle id⟩
  | deleteSession handle session =>
    obtain ⟨count, hok⟩ := discard_eq_ok hok
    have hstore := congrArg Prod.snd ((deleteSession_store session).symm.trans hok)
    exact ⟨_, hstore.symm, .deleteSession handle session⟩
  | deleteSessionRow session =>
    obtain ⟨count, hok⟩ := discard_eq_ok hok
    have hstore := congrArg Prod.snd ((deleteSessionRow_store h session).symm.trans hok)
    exact ⟨_, hstore.symm, .deleteSessionRow session⟩
  | updateTexts id content context kind =>
    obtain ⟨count, hok⟩ := discard_eq_ok hok
    rcases updateTexts_store hok with rfl | ⟨row, hrow, k, text, rfl⟩
    · exact ⟨t, rfl, .updateNothing id content context kind⟩
    · exact ⟨_, rfl, .updateTexts hrow k text⟩

/-- An operation that succeeds on coherent tables leaves coherent tables of the same dimension. -/
lemma Makes.sound (h : Coherent t) {operation : Operation} {u : Tables}
    (hmakes : Makes t operation u) : Sound t.vectors.dimension u.store := by
  cases hmakes with
  | upsertSession handle s => exact (h.withMetadata s).sound
  | insert room fits => exact ⟨_, rfl, h.added room _ fits, dimension_added ..⟩
  | replaceSession told =>
    obtain ⟨-, hcoherent, hdimension⟩ := replaceSession_store h told
    exact ⟨_, rfl, hcoherent, hdimension⟩
  | setEmbedding live fits =>
    refine ⟨_, rfl, (h.withoutEmbedding _).withEmbedding live ?_ fits.2 fits.1, rfl⟩
    simp [Vector.Table.find?_eq_none_iff, Tables.withoutEmbedding]
  | delete handle id => exact ⟨_, rfl, h.without _, dimension_eraseAll ..⟩
  | deleteSession handle session => exact ⟨_, rfl, h.without _, dimension_eraseAll ..⟩
  | deleteSessionRow session => exact ⟨_, rfl, h.withoutSession session, dimension_eraseAll ..⟩
  | updateTexts live k text => exact ⟨_, rfl, h.withTexts live text _ k, rfl⟩
  | _ => exact h.sound

/-- One operation keeps tables coherent. -/
theorem sound_perform {dimension : Nat} {s : Store} (h : Sound dimension s)
    (operation : Operation) : Sound dimension (perform s operation) := by
  obtain ⟨t, rfl, ht, rfl⟩ := h
  rcases hs : operation.action t.store with ⟨_ | _, s⟩
  · rw [perform, hs, operation.atomic hs]
    exact ht.sound
  · obtain ⟨u, rfl, hmakes⟩ := makes_of_ok ht hs
    rw [perform, hs]
    exact hmakes.sound ht

/-- A run keeps tables coherent. -/
theorem sound_run {dimension : Nat} {s : Store} (h : Sound dimension s)
    (operations : List Operation) : Sound dimension (run operations s) := by
  induction operations generalizing s with
  | nil => exact h
  | cons operation operations ih => exact ih (sound_perform h operation)

/-- Without a schema an operation that asks for it after reading only fails. -/
lemma fails_empty {α β : Type} {handle : Handle} {x : Action α} {f : Unit → Action β}
    (hx : ReadOnly x) : ∃ e, (x >>= fun _ => ensureSchema handle >>= f) {} = (.error e, {}) := by
  obtain ⟨e, hxs⟩ | ⟨a, hxs⟩ := hx.outcome {} <;> rw [bind_apply, hxs]
  · exact ⟨e, rfl⟩
  · exact ⟨.schemaMissing handle.path, rfl⟩

lemma applySchema_empty_eq_ok {handle : Handle} {s : Store}
    (hok : applySchema handle {} = (.ok (), s)) : s = (fresh handle.dimension).store := by
  rw [applySchema_empty] at hok
  split at hok
  · simp at hok
  · exact (congrArg Prod.snd hok).symm

/-- Without a schema nothing succeeds but opening the store and applying the schema. -/
theorem ok_empty_cases {operation : Operation} {u : Store}
    (hok : operation.action {} = (.ok (), u)) :
    (∃ handle, operation = .reopen handle ∧ u = {}) ∨
      ∃ handle, operation = .applySchema handle ∧ u = (fresh handle.dimension).store := by
  cases operation with
  | reopen handle =>
    have hread := readOnly_checkHandle handle {}
    rw [show checkHandle handle {} = _ from hok] at hread
    exact .inl ⟨handle, rfl, hread⟩
  | applySchema handle => exact .inr ⟨handle, rfl, applySchema_empty_eq_ok hok⟩
  | insert handle f embedding =>
    obtain ⟨id, hok⟩ := discard_eq_ok hok
    obtain ⟨e, hfails⟩ : ∃ e, Store.insert handle f embedding {} = (.error e, {}) :=
      fails_empty (readOnly_validate handle f embedding)
    rw [hfails] at hok
    cases hok
  | replaceSession handle session items =>
    obtain ⟨ids, hok⟩ := discard_eq_ok hok
    obtain ⟨e, hfails⟩ : ∃ e, Store.replaceSession handle session items {} = (.error e, {}) :=
      fails_empty (ReadOnly.forM (readOnly_validateFor handle session))
    rw [hfails] at hok
    cases hok
  | setEmbedding handle id embedding =>
    obtain ⟨e, hfails⟩ : ∃ e, Store.setEmbedding handle id embedding {} = (.error e, {}) :=
      fails_empty (readOnly_checkDimension handle embedding)
    rw [action, hfails] at hok
    cases hok
  | _ => cases hok

/-- Nothing but applying the schema changes an empty store. -/
lemma perform_empty_of_applies_eq_false {operation : Operation} (h : operation.applies = false) :
    perform {} operation = {} := by
  rcases haction : operation.action {} with ⟨e | _, u⟩
  · rw [perform, haction, operation.atomic haction]
  · rw [perform, haction]
    obtain ⟨handle, rfl, rfl⟩ | ⟨handle, rfl, -⟩ := ok_empty_cases haction
    · rfl
    · cases h

lemma perform_empty (operation : Operation) :
    perform {} operation = {} ∨ ∃ dimension, Sound dimension (perform {} operation) := by
  rcases haction : operation.action {} with ⟨e | _, u⟩
  · rw [perform, haction, operation.atomic haction]
    exact .inl rfl
  · rw [perform, haction]
    obtain ⟨handle, rfl, rfl⟩ | ⟨handle, rfl, rfl⟩ := ok_empty_cases haction
    · exact .inl rfl
    · exact .inr ⟨_, (coherent_fresh handle.dimension).sound⟩

/-- A store that operations have made is empty, or its tables are coherent. -/
theorem reachable_cases {s : Store} (h : Reachable s) :
    s = {} ∨ ∃ dimension, Sound dimension s := by
  obtain ⟨operations, rfl⟩ := h
  induction operations with
  | nil => exact .inl rfl
  | cons operation operations ih =>
    rcases perform_empty operation with hempty | ⟨dimension, hsound⟩
    · rwa [run, List.foldl_cons, hempty]
    · exact .inr ⟨dimension, sound_run hsound operations⟩

/-- From a fresh schema on, whatever operations are performed and whichever of them fail, the four
tables agree, the embeddings have the dimension of the schema, and the statistics show it. -/
theorem run_tables_agree {handle : Handle} {s : Store}
    (hfresh : applySchema handle {} = (.ok (), s)) (operations : List Operation) :
    ∃ t : Tables, run operations s = t.store ∧ Coherent t ∧
      t.vectors.dimension = handle.dimension ∧
      (∀ reader, stats reader (run operations s) = (.ok t.statistics, run operations s)) ∧
      t.statistics.lexical = t.statistics.findings ∧
      (t.statistics.byKind.map (·.2)).sum = t.statistics.findings ∧
      t.statistics.embeddings ≤ t.statistics.findings ∧
      (t.findings.map (·.session)).dedup.length ≤ t.statistics.sessions := by
  obtain rfl := applySchema_empty_eq_ok hfresh
  have hsound : Sound handle.dimension (fresh handle.dimension).store :=
    ⟨_, rfl, coherent_fresh _, rfl⟩
  obtain ⟨t, hrun, ht, hdimension⟩ := sound_run hsound operations
  refine ⟨t, hrun, ht, hdimension, fun reader => ?_, statistics_agree ht⟩
  rw [hrun]
  exact stats_store ht reader

/-- A finding is stored, gets an embedding and other texts, and is deleted with its session. -/
theorem run_tables_agree_deleted_session :
    applySchema ⟨"findings.db", 1⟩ {} = (.ok (), (fresh 1).store) ∧
      ∃ t : Tables, run [
          .insert ⟨"findings.db", 1⟩
            { session := "s", kind := .praise, content := "a", severity := .low } none,
          .setEmbedding ⟨"findings.db", 1⟩ 1 [Number.Binary.zero],
          .updateTexts 1 (some "b") none (some "blocker"),
          .deleteSessionRow "s"] (fresh 1).store = t.store ∧ Coherent t := by
  have hfresh : applySchema ⟨"findings.db", 1⟩ {} = (.ok (), (fresh 1).store) := rfl
  obtain ⟨t, hrun, ht, -⟩ := run_tables_agree hfresh _
  exact ⟨hfresh, t, hrun, ht⟩

end Findings.Store
