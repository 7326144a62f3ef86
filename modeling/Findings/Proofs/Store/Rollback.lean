import Findings.Proofs.Store.Outcomes
import Findings.Proofs.Store.Runs

/-!
# Failed operations

A failed operation leaves the whole store as it was, whatever had been written before it failed.
What is wrong with its arguments is found first. What is found later, an embedding that the table
does not take or an id that is missing in the middle of a list, comes after rows, sessions and
entries have been written, and the transaction takes them back.
-/
namespace Findings.Store

open Findings.Record
open Operation

/-- The operations of a run that succeed, each after the ones before it. -/
def effective (s : Store) : List Operation → List Operation
  | [] => []
  | operation :: rest =>
    match operation.action s with
    | (.ok _, t) => operation :: effective t rest
    | (.error _, _) => effective s rest

lemma effective_sublist (operations : List Operation) (s : Store) :
    (effective s operations).Sublist operations := by
  induction operations generalizing s with
  | nil => exact .slnil
  | cons operation rest ih =>
    rw [effective]
    rcases operation.action s with ⟨e | _, t⟩
    · exact (ih s).cons operation
    · exact (ih t).cons_cons operation

/-- What the failing operations of a handle leave of a store. -/
structure ChangesNothing (handle : Handle) : Prop where
  applySchema : Atomic (applySchema handle)
  upsertSession : ∀ session, Atomic (upsertSession handle session)
  insert : ∀ f embedding, Atomic (insert handle f embedding)
  replaceSession : ∀ session items, Atomic (replaceSession handle session items)
  setEmbedding : ∀ id embedding, Atomic (setEmbedding handle id embedding)
  delete : ∀ id, Atomic (delete handle id)
  deleteSession : ∀ session, Atomic (deleteSession handle session)
  /-- One of the items belongs to another session, has a blank content or does not fit. -/
  refusedItem : ∀ session items e s,
    items.findSome? (refusalFor handle.dimension session) = some e →
      Store.replaceSession handle session items s = (.error e, s)
  /-- There is no finding to get the embedding. -/
  missingFinding : ∀ id embedding s, (∀ rows ∈ s.findings, ∀ row ∈ rows, row.id ≠ id) →
    ∃ e, Store.setEmbedding handle id embedding s = (.error e, s)
  /-- The table of embeddings cannot be made. -/
  refusedDimension : ∀ s : Store, s.migrated = false → maxDimension < handle.dimension →
    Store.applySchema handle s = (.error (.table (.dimensionLimit handle.dimension)), s)
  /-- The finding has been written when its embedding is refused. -/
  refusedEmbedding : ∀ (t : Tables) f vector fault, Coherent t → t.lastId < maxId →
    refusal handle.dimension f (some vector) = none →
    t.vectors.insert (t.lastId + 1) vector = .error fault →
      addFinding f (some vector) t.store = (.error (.table fault), (t.withFinding f).store) ∧
      Store.insert handle f (some vector) t.store = (.error (.table fault), t.store)
  /-- Old findings have been deleted, and some of the new ones written, when no id is left. -/
  missingIds : ∀ (t : Tables) session items, Coherent t → Opened handle t →
    items.findSome? (refusalFor handle.dimension session) = none →
    maxId < t.lastId + items.length →
      Store.replaceSession handle session items t.store = (.error (.table .full), t.store)

/-- Failed operations change nothing. -/
theorem failed_operation_changes_nothing (handle : Handle) : ChangesNothing handle where
  applySchema := atomic_applySchema handle
  upsertSession := atomic_upsertSession handle
  insert := atomic_insert handle
  replaceSession := atomic_replaceSession handle
  setEmbedding := atomic_setEmbedding handle
  delete := atomic_delete handle
  deleteSession := atomic_deleteSession handle
  refusedItem session items e s h := replaceSession_refused h s
  missingFinding id embedding s hmissing := ⟨_, setEmbedding_missing hmissing embedding⟩
  refusedDimension s := applySchema_refused
  refusedEmbedding t f vector fault h hlast hfine hfault := by
    have hadd := addFinding_unfit h hlast f hfault
    refine ⟨hadd, ?_⟩
    simp only [Store.insert, validate_eq, hfine, bind_apply, verdict_none, ensureSchema_store,
      transaction, hadd]
  missingIds t session items h hopen hfine hshort := by
    rw [replaceSession_eq h hopen, hfine]
    exact if_pos hshort

/-- Replacing the finding of a session fails at its last item, and the finding survives. -/
theorem failed_operation_changes_nothing_last_item :
    ∃ s : Store, Reachable s ∧ s.findings.map (·.length) = some 1 ∧
      replaceSession ⟨"findings.db", 1⟩ "s" [
          ({ session := "s", kind := .praise, content := "b", severity := .low },
            [Number.Binary.zero]),
          ({ session := "s", kind := .praise, content := " ", severity := .low },
            [Number.Binary.zero])] s = (.error (.finding .blankContent), s) := by
  let s : Store := run [
    .applySchema ⟨"findings.db", 1⟩,
    .insert ⟨"findings.db", 1⟩ { session := "s", kind := .praise, content := "a", severity := .low }
      none] {}
  exact ⟨s, ⟨_, rfl⟩, by decide +kernel,
    (failed_operation_changes_nothing ⟨"findings.db", 1⟩).refusedItem _ _ _ s (by decide +kernel)⟩

end Findings.Store
