import Findings.Proofs.Store.Replacing
import Findings.Proofs.Store.Rollback
import Findings.Proofs.Store.Sessions
import Mathlib.Data.List.DropRight

/-!
# Metadata of sessions

Two kinds of operations write the row of a session, in any order: giving its metadata, where a
missing value keeps the one before, and storing a finding of a session that has no row yet. What a
row says after a run is described by the metadata alone that have been given since the row was
last deleted: the last project and the last start that were given, and when the session was
analyzed for the last time.
-/
namespace Findings.Store

open Findings.Record
open Findings.Time
open Operation
open Tables

def sessionRow (session : String) (s : Store) : Option SessionRow :=
  s.sessions.bind (·.find? (·.id == session))

namespace Operation

/-- The metadata that an operation gives of a session. -/
def metadata? (session : String) : Operation → Option Session
  | upsertSession _ s => if s.id = session then some s else none
  | _ => none

/-- Whether an operation that succeeds leaves a session with a row: it gives metadata of the
session, or it stores a finding of it. -/
def names (session : String) : Operation → Bool
  | upsertSession _ s => s.id == session
  | insert _ f _ => f.session == session
  | replaceSession _ replaced items => replaced == session && !items.isEmpty
  | _ => false

/-- Whether an operation deletes the row of a session. -/
def forgets (session : String) : Operation → Bool
  | deleteSessionRow deleted => deleted == session
  | _ => false

/-- What an operation that succeeds makes of the row of a session. -/
def changeRow (session : String) (row : Option SessionRow) : Operation → Option SessionRow
  | upsertSession _ s =>
    if s.id = session then some ((row.getD ⟨session, none, none, none⟩).update s) else row
  | insert _ f _ => if f.session = session then row.or (some ⟨session, none, none, none⟩) else row
  | replaceSession _ replaced items =>
    if replaced = session ∧ items ≠ [] then row.or (some ⟨session, none, none, none⟩) else row
  | deleteSessionRow deleted => if deleted = session then none else row
  | _ => row

end Operation

/-! ### What is recorded -/

/-- A row with the last project and the last start of some metadata, each of them looked for on its
own, and with the analysis of the last metadata. -/
def rowGiven (session : String) (given : List Session) : SessionRow where
  id := session
  project := (given.filterMap (·.project)).getLast?
  startedAt := (given.filterMap (·.startedAt)).getLast?.map Timestamp.columnText
  analyzedAt := given.getLast?.map (·.analyzedAt.columnText)

/-- The row of a session whose row was not deleted in a history of operations that succeeded. -/
def recorded (session : String) (history : List Operation) : Option SessionRow :=
  if history.any (·.names session) then
    some (rowGiven session (history.filterMap (·.metadata? session)))
  else none

/-- The operations of a run that have succeeded since the row of a session was last deleted. -/
def sinceForgotten (session : String) (operations : List Operation) : List Operation :=
  (effective {} operations).rtakeWhile fun operation => !operation.forgets session

variable {session : String}

/-- Metadata that are given last complete the row. -/
lemma rowGiven_concat (given : List Session) (s : Session) :
    rowGiven session (given ++ [s]) = (rowGiven session given).update s := by
  have hlast {α : Type} (value : Session → Option α) :
      ((given ++ [s]).filterMap value).getLast? =
        (value s).or (given.filterMap value).getLast? := by
    rw [List.filterMap_append, List.getLast?_append]
    cases hvalue : value s <;> simp [hvalue]
  simp only [rowGiven, SessionRow.update, hlast, Option.map_or, List.getLast?_concat,
    Option.map_some]

/-- Who gives metadata of a session names it. -/
lemma filterMap_metadata?_eq_nil {history : List Operation}
    (h : history.any (·.names session) = false) :
    history.filterMap (·.metadata? session) = [] := by
  refine List.filterMap_eq_nil_iff.mpr fun operation hoperation => ?_
  have hnot : operation.names session = false := by
    simpa using List.any_eq_false.mp h operation hoperation
  cases operation with
  | upsertSession handle s => exact if_neg (by simpa [names] using hnot)
  | _ => rfl

lemma getD_recorded (history : List Operation) :
    (recorded session history).getD ⟨session, none, none, none⟩ =
      rowGiven session (history.filterMap (·.metadata? session)) := by
  unfold recorded
  split_ifs with hnamed
  · rfl
  · rw [filterMap_metadata?_eq_nil (Bool.eq_false_iff.mpr hnamed)]
    rfl

/-- What one more operation, that does not delete the row, makes of what is recorded. -/
lemma recorded_concat (history : List Operation) {operation : Operation}
    (hkept : operation.forgets session = false) :
    recorded session (history ++ [operation]) =
      operation.changeRow session (recorded session history) := by
  have hor : (recorded session history).or (some ⟨session, none, none, none⟩) =
      some (rowGiven session (history.filterMap (·.metadata? session))) := by
    rw [← getD_recorded]
    cases recorded session history <;> rfl
  have hother (hname : operation.names session = false) :
      recorded session (history ++ [operation]) = recorded session history := by
    have hnone : [operation].filterMap (·.metadata? session) = [] :=
      filterMap_metadata?_eq_nil (by simpa using hname)
    simp only [recorded, List.any_append, List.filterMap_append, hnone, List.append_nil,
      List.any_cons, List.any_nil, hname, Bool.or_false]
  cases operation with
  | upsertSession handle s =>
    by_cases hid : s.id = session
    · simp only [changeRow, if_pos hid, getD_recorded, ← rowGiven_concat]
      simp [recorded, names, metadata?, hid]
    · rw [hother (by simpa [names] using hid), changeRow, if_neg hid]
  | insert handle f embedding =>
    by_cases hid : f.session = session
    · simp only [changeRow, if_pos hid, hor]
      simp [recorded, names, metadata?, hid]
    · rw [hother (by simpa [names] using hid), changeRow, if_neg hid]
  | replaceSession handle replaced items =>
    by_cases hid : replaced = session ∧ items ≠ []
    · simp only [changeRow, if_pos hid, hor]
      simp [recorded, names, metadata?, hid]
    · rw [hother (by simpa [names] using hid), changeRow, if_neg hid]
  | deleteSessionRow deleted =>
    have hid : ¬ deleted = session := by simpa [forgets] using hkept
    rw [hother rfl, changeRow, if_neg hid]
  | _ => exact hother rfl

/-- The changes of a history come to what it records since the row was last deleted. -/
lemma foldl_changeRow (history : List Operation) :
    history.foldl (fun row operation => operation.changeRow session row) none =
      recorded session (history.rtakeWhile fun operation => !operation.forgets session) := by
  induction history using List.reverseRecOn with
  | nil => rfl
  | append_singleton history operation ih =>
    rw [List.foldl_append, ih, List.foldl_cons, List.foldl_nil]
    cases hforgets : operation.forgets session with
    | true =>
      cases operation with
      | deleteSessionRow deleted =>
        rw [List.rtakeWhile_concat_neg _ _ _ (by simp [hforgets]), changeRow,
          if_pos (by simpa [forgets] using hforgets)]
        rfl
      | _ => cases hforgets
    | false =>
      rw [List.rtakeWhile_concat_pos _ _ _ (by simp [hforgets]), recorded_concat _ hforgets]

/-! ### One operation -/

variable {t : Tables}

/-- Findings of one session that are added see to its row. -/
lemma find?_addedAll {items : List (NewFinding × Embedding)} {replaced : String}
    (hof : ∀ item ∈ items, item.1.session = replaced) (session : String) :
    (t.addedAll items).sessions.find? (·.id == session) =
      if replaced = session ∧ items ≠ [] then
        (t.sessions.find? (·.id == session)).or (some ⟨session, none, none, none⟩)
      else t.sessions.find? (·.id == session) := by
  induction items generalizing t with
  | nil => simp [addedAll]
  | cons item items ih =>
    have hfirst := hof item List.mem_cons_self
    have hall : t.addedAll (item :: items) = (t.added item.1 (some item.2)).addedAll items := rfl
    rw [hall, ih fun other hother => hof other (List.mem_cons_of_mem _ hother), sessions_added,
      find?_withSession, hfirst]
    by_cases hid : replaced = session
    · subst hid
      simp
    · simp [hid]

lemma Makes.sessionRow_eq {operation : Operation} {u : Tables} (hmakes : Makes t operation u)
    (session : String) :
    sessionRow session u.store = operation.changeRow session (sessionRow session t.store) := by
  cases hmakes with
  | upsertSession handle s =>
    refine (find?_withMetadata t s session).trans ?_
    simp only [changeRow]
    split_ifs with hid
    · rw [hid]
      rfl
    · rfl
  | @insert handle f embedding room fits told =>
    have hrow : sessionRow session (t.added f embedding).store =
        (t.withSession f.session).sessions.find? (·.id == session) := by
      rw [← sessions_added]
      rfl
    rw [hrow, find?_withSession, changeRow]
    split_ifs with hid
    · rw [hid]
      rfl
    · rfl
  | @replaceSession handle replaced items ids told =>
    have hof : ∀ item ∈ items, item.1.session = replaced :=
      fun item hitem => (storable_of_replaceSession told item hitem).1
    exact find?_addedAll hof session
  | deleteSessionRow deleted =>
    change (t.sessions.filter (·.id != deleted)).find? (·.id == session) = _
    rw [find?_filter_ne, changeRow]
    by_cases hid : deleted = session
    · rw [if_pos hid.symm, if_pos hid]
    · rw [if_neg fun heq => hid heq.symm, if_neg hid]
      rfl
  | _ => rfl

/-- What one operation that succeeds makes of the row of a session. Without a schema no session
gets one. -/
lemma sessionRow_of_action {s : Store} (hs : Reachable s) {operation : Operation} {u : Store}
    (hok : operation.action s = (.ok (), u)) (session : String) :
    sessionRow session u = operation.changeRow session (sessionRow session s) := by
  obtain rfl | ⟨dimension, t, rfl, ht, -⟩ := reachable_cases hs
  · obtain ⟨handle, rfl, rfl⟩ | ⟨handle, rfl, rfl⟩ := ok_empty_cases hok
    · rfl
    · rfl
  · obtain ⟨t', rfl, hmakes⟩ := makes_of_ok ht hok
    exact hmakes.sessionRow_eq session

/-- A run changes the row of a session as its operations that succeed do. -/
theorem sessionRow_run {s : Store} (hs : Reachable s) (operations : List Operation)
    (session : String) :
    sessionRow session (run operations s) = (effective s operations).foldl
      (fun row operation => operation.changeRow session row) (sessionRow session s) := by
  induction operations generalizing s with
  | nil => rfl
  | cons operation rest ih =>
    have hnext := ih (reachable_run hs [operation])
    rw [effective]
    rcases haction : operation.action s with ⟨e | _, u⟩
    · -- a failing operation has changed nothing
      have hsame : perform s operation = s := by
        rw [perform, haction, operation.atomic haction]
      exact (congrArg (sessionRow session <| run rest ·) hsame).trans (ih hs)
    · have hperform : perform s operation = u := congrArg Prod.snd haction
      rw [List.foldl_cons, ← sessionRow_of_action hs haction, ← hperform]
      exact hnext

/-! ### What is remembered -/

/-- An operation that neither gives metadata of a session nor deletes its row keeps the row. -/
lemma changeRow_some {operation : Operation} (hgives : operation.metadata? session = none)
    (hkept : operation.forgets session = false) (row : SessionRow) :
    operation.changeRow session (some row) = some row := by
  cases operation with
  | upsertSession handle s =>
    have hid : ¬ s.id = session := by simpa [metadata?] using hgives
    rw [changeRow, if_neg hid]
  | deleteSessionRow deleted =>
    have hid : ¬ deleted = session := by simpa [forgets] using hkept
    rw [changeRow, if_neg hid]
  | insert handle f embedding => exact ite_self _
  | replaceSession handle replaced items => exact ite_self _
  | _ => rfl

/-- What is known of a session after a run, and after one operation more. -/
structure Remembers (session : String) (operations : List Operation) : Prop where
  /-- Its row is what the operations record that have succeeded since the row was deleted. -/
  row : sessionRow session (run operations {}) =
    recorded session (sinceForgotten session operations)
  /-- These are all that have succeeded if no operation deletes the row. -/
  whole : (∀ operation ∈ operations, operation.forgets session = false) →
    sinceForgotten session operations = effective {} operations
  /-- With a schema, metadata are always taken. -/
  taken : (run operations {}).hasSchema = true → ∀ handle s,
    ∃ u, upsertSession handle s (run operations {}) = (.ok (), u)
  /-- Whatever else is done to findings and to other sessions, the row stays. -/
  kept : ∀ row, sessionRow session (run operations {}) = some row → ∀ operation : Operation,
    operation.metadata? session = none → operation.forgets session = false →
      sessionRow session (perform (run operations {}) operation) = some row

/-- In every run, metadata of a session are kept until its row is deleted. -/
theorem metadata_never_lost (operations : List Operation) (session : String) :
    Remembers session operations := by
  have hreachable : Reachable (run operations {}) := ⟨operations, rfl⟩
  constructor
  case row => exact (sessionRow_run ⟨[], rfl⟩ operations session).trans (foldl_changeRow _)
  case whole =>
    intro hkept
    refine List.rtakeWhile_eq_self_iff.mpr fun operation hoperation => ?_
    simpa using hkept operation ((effective_sublist operations {}).subset hoperation)
  case taken =>
    intro hschema handle s
    obtain hempty | ⟨dimension, t, ht, -⟩ := reachable_cases hreachable
    · rw [hempty] at hschema
      exact absurd hschema Bool.false_ne_true
    · exact ⟨_, ht ▸ upsertSession_store s⟩
  case kept =>
    intro row hrow operation hgives hkept
    rcases haction : operation.action (run operations {}) with ⟨e | _, u⟩
    · rw [perform, haction, operation.atomic haction, hrow]
    · have hperform : perform (run operations {}) operation = u := congrArg Prod.snd haction
      rw [hperform, sessionRow_of_action hreachable haction, hrow, changeRow_some hgives hkept]

/-- A finding comes before its session, the project is given with the first metadata and the start
with the second, and the findings are deleted. -/
example :
    let opened : Handle := ⟨"findings.db", 1⟩
    sessionRow "s" (run [.applySchema opened,
      .insert opened { session := "s", kind := .praise, content := "a", severity := .low } none,
      .upsertSession opened { id := "s", project := some "p", analyzedAt := default },
      .upsertSession opened { id := "s", startedAt := some default, analyzedAt := default },
      .deleteSession opened "s"] {}) =
    some ⟨"s", some "p", some "1970-01-01 00:00:00+00:00", some "1970-01-01 00:00:00+00:00"⟩ := by
  decide +kernel

end Findings.Store
