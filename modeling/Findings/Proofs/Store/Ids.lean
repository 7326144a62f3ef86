import Findings.Proofs.Store.Outcomes
import Findings.Proofs.Store.Runs

/-!
# Ids over a run

The ids that operations give to new findings rise over a whole run, whatever is deleted, fails or
is opened again in between. So an id that has been given and whose finding is gone is never the
id of a finding again: `Ages` says what a step may do to the ids, it composes, and every operation
of a store that operations have made keeps to it.
-/
namespace Findings.Store

open Findings.Record
open Operation
open Tables

def IsLive (s : Store) (id : Int) : Prop := ∃ rows ∈ s.findings, ∃ row ∈ rows, row.id = id

instance (s : Store) (id : Int) : Decidable (IsLive s id) :=
  inferInstanceAs (Decidable (∃ rows ∈ s.findings, ∃ row ∈ rows, row.id = id))

@[simp] lemma isLive_store {t : Tables} {id : Int} :
    IsLive t.store id ↔ ∃ row ∈ t.findings, row.id = id := by
  simp [IsLive, Tables.store]

lemma not_isLive_empty (id : Int) : ¬ IsLive {} id := by
  rintro ⟨rows, hrows, -⟩
  cases hrows

/-- The ids that an operation gives to new findings; a failing one gives none. -/
def Operation.newIds (s : Store) : Operation → List Int
  | insert handle f embedding => (Store.insert handle f embedding s).1.toOption.toList
  | replaceSession handle session items =>
    (Store.replaceSession handle session items s).1.toOption.getD []
  | _ => []

/-- The ids that the operations of a run give to new findings, in the order of the run. -/
def idsGiven : List Operation → Store → List Int
  | [], _ => []
  | operation :: rest, s => operation.newIds s ++ idsGiven rest (perform s operation)

/-- What steps that give ids may do: the ids rise, beginning above the last one that was given, and
no other id comes to life. -/
structure Ages (s u : Store) (given : List Int) : Prop where
  lastId_le : s.lastId ≤ u.lastId
  above : ∀ id ∈ given, s.lastId < id ∧ id ≤ u.lastId
  rising : given.Pairwise (· < ·)
  live : ∀ id, IsLive u id → IsLive s id ∨ id ∈ given

namespace Ages

lemma refl (s : Store) : Ages s s [] :=
  ⟨Int.le_refl _, by simp, .nil, fun _ => .inl⟩

lemma trans {s u v : Store} {given later : List Int} (h : Ages s u given) (h' : Ages u v later) :
    Ages s v (given ++ later) where
  lastId_le := Int.le_trans h.lastId_le h'.lastId_le
  above id hid := by
    have hold := h.lastId_le
    have hnew := h'.lastId_le
    rcases List.mem_append.mp hid with hid | hid
    · have := h.above id hid
      omega
    · have := h'.above id hid
      omega
  rising := by
    refine List.pairwise_append.mpr ⟨h.rising, h'.rising, fun a ha b hb => ?_⟩
    have hfirst := h.above a ha
    have hsecond := h'.above b hb
    omega
  live id hid := by
    rcases h'.live id hid with hid | hid
    · exact (h.live id hid).imp_right (List.mem_append_left later)
    · exact .inr (List.mem_append_right given hid)

/-- An id that was given before and has no finding gets none. -/
lemma not_isLive {s u : Store} {given : List Int} (h : Ages s u given) {id : Int}
    (hid : id ≤ s.lastId) (hgone : ¬ IsLive s id) : ¬ IsLive u id := by
  intro hlive
  rcases h.live id hlive with hold | hnew
  · exact hgone hold
  · have := h.above id hnew
    omega

/-- Findings may go, and change in all but their ids. -/
lemma of_subset {t u : Tables} (hlast : u.lastId = t.lastId)
    (hids : ∀ row ∈ u.findings, ∃ old ∈ t.findings, old.id = row.id) :
    Ages t.store u.store [] where
  lastId_le := Int.le_of_eq hlast.symm
  above := by simp
  rising := .nil
  live id hid := by
    obtain ⟨row, hrow, rfl⟩ := isLive_store.mp hid
    exact .inl (isLive_store.mpr (hids row hrow))

end Ages

variable {t : Tables}

lemma ages_without (t : Tables) (chosen : Row → Bool) : Ages t.store (t.without chosen).store [] :=
  .of_subset rfl fun row hrow => ⟨row, List.mem_of_mem_filter hrow, rfl⟩

/-- A new finding has the id after the last one. -/
lemma ages_added (h : Coherent t) (f : NewFinding) (embedding : Option Embedding) :
    Ages t.store (t.added f embedding).store [t.lastId + 1] where
  lastId_le := by
    have := lastId_added t f embedding
    simp only [Tables.store]
    omega
  above id hid := by
    obtain rfl := List.mem_singleton.mp hid
    have := lastId_added t f embedding
    simp only [Tables.store]
    omega
  rising := List.pairwise_singleton _ _
  live id hid := by
    obtain ⟨row, hrow, rfl⟩ := isLive_store.mp hid
    rw [h.findings_added, List.mem_append, List.mem_singleton] at hrow
    rcases hrow with hrow | rfl
    · exact .inl (isLive_store.mpr ⟨row, hrow, rfl⟩)
    · exact .inr List.mem_cons_self

/-- New findings have the ids that are told. -/
lemma ages_addedAll (h : Coherent t) {items : List (NewFinding × Embedding)} {ids : List Int}
    {s : Store}
    (hok : items.mapM (fun item => addFinding item.1 (some item.2)) t.store = (.ok ids, s)) :
    Ages t.store s ids := by
  induction items generalizing t ids with
  | nil =>
    simp only [List.mapM_nil, pure_apply, outcome_eq_iff, Except.ok.injEq] at hok
    obtain ⟨rfl, rfl⟩ := hok
    exact .refl _
  | cons item items ih =>
    rw [List.mapM_cons] at hok
    obtain ⟨id, u, hadd, hrest⟩ := bind_eq_ok_iff.mp hok
    obtain ⟨later, v, hall, hpure⟩ := bind_eq_ok_iff.mp hrest
    simp only [pure_apply, outcome_eq_iff, Except.ok.injEq] at hpure
    obtain ⟨rfl, rfl⟩ := hpure
    obtain ⟨hlast, hfits, rfl, rfl⟩ := addFinding_store h hadd
    exact (ages_added h item.1 (some item.2)).trans (ih (h.added hlast item.1 hfits) hall)

/-- The store that applying the schema makes has no findings. -/
lemma ages_fresh (dimension : Nat) : Ages {} (fresh dimension).store [] where
  lastId_le := Int.le_refl _
  above := by simp
  rising := .nil
  live id hid := by simp [fresh] at hid

lemma newIds_of_error {s u : Store} {operation : Operation} {e : Error}
    (h : operation.action s = (.error e, u)) : operation.newIds s = [] := by
  have hdiscard : ∀ {α : Type} {x : Action α}, (discard x : Action Unit) s = (.error e, u) →
      (x s).1.toOption = none := by
    intro α x hx
    rw [discard_apply] at hx
    rcases hxs : x s with ⟨_ | a, v⟩ <;> rw [hxs] at hx <;> cases hx
    rfl
  cases operation with
  | insert handle f embedding => rw [newIds, hdiscard h]; rfl
  | replaceSession handle session items => rw [newIds, hdiscard h]; rfl
  | _ => rfl

/-- Before the schema is applied nothing is given and nothing comes to life. -/
lemma ages_perform_empty (operation : Operation) :
    Ages {} (perform {} operation) (operation.newIds {}) := by
  rcases haction : operation.action {} with ⟨e | _, u⟩
  · rw [perform, haction, operation.atomic haction, newIds_of_error haction]
    exact .refl _
  · rw [perform, haction]
    obtain ⟨handle, rfl, rfl⟩ | ⟨handle, rfl, rfl⟩ := ok_empty_cases haction
    · exact .refl _
    · exact ages_fresh handle.dimension

lemma Makes.ages (h : Coherent t) {operation : Operation} {u : Tables}
    (hmakes : Makes t operation u) : Ages t.store u.store (operation.newIds t.store) := by
  cases hmakes with
  | upsertSession handle s => exact .of_subset rfl fun row hrow => ⟨row, hrow, rfl⟩
  | insert room fits told =>
    rw [newIds, told]
    exact ages_added h _ _
  | replaceSession told =>
    rw [newIds, told]
    exact (ages_without t _).trans (ages_addedAll (h.without _) (addAll_of_replaceSession told))
  | setEmbedding live fits => exact .of_subset rfl fun row hrow => ⟨row, hrow, rfl⟩
  | delete handle id => exact ages_without t _
  | deleteSession handle session => exact ages_without t _
  | deleteSessionRow session =>
    exact .of_subset rfl fun row hrow => ⟨row, List.mem_of_mem_filter hrow, rfl⟩
  | updateTexts live k text =>
    refine .of_subset rfl fun changed hchanged => ?_
    obtain ⟨old, hold, rfl⟩ := List.mem_map.mp hchanged
    refine ⟨old, hold, ?_⟩
    split_ifs with hid
    · exact hid
    · rfl
  | _ => exact .refl _

lemma ages_perform_store (h : Coherent t) (operation : Operation) :
    Ages t.store (perform t.store operation) (operation.newIds t.store) := by
  rcases hs : operation.action t.store with ⟨e | _, s⟩
  · rw [perform, hs, operation.atomic hs, newIds_of_error hs]
    exact .refl _
  · obtain ⟨u, rfl, hmakes⟩ := makes_of_ok h hs
    rw [perform, hs]
    exact hmakes.ages h

/-- What one operation does to the ids of a store that operations have made. -/
theorem ages_perform {s : Store} (hs : Reachable s) (operation : Operation) :
    Ages s (perform s operation) (operation.newIds s) := by
  rcases reachable_cases hs with rfl | ⟨dimension, t, rfl, ht, -⟩
  · exact ages_perform_empty operation
  · exact ages_perform_store ht operation

lemma reachable_run {s : Store} (hs : Reachable s) (operations : List Operation) :
    Reachable (run operations s) := by
  obtain ⟨before, rfl⟩ := hs
  exact ⟨before ++ operations, List.foldl_append.symm⟩

/-- What a run does to the ids. -/
theorem ages_run {s : Store} (hs : Reachable s) (operations : List Operation) :
    Ages s (run operations s) (idsGiven operations s) := by
  induction operations generalizing s with
  | nil => exact .refl _
  | cons operation operations ih =>
    exact (ages_perform hs operation).trans (ih (reachable_run hs [operation]))

/-- No id of a finding is above the last one that was given. -/
lemma le_lastId {s : Store} (hs : Reachable s) {id : Int} (hlive : IsLive s id) :
    id ≤ s.lastId := by
  rcases reachable_cases hs with rfl | ⟨dimension, t, rfl, ht, -⟩
  · exact absurd hlive (not_isLive_empty id)
  · obtain ⟨row, hrow, rfl⟩ := isLive_store.mp hlive
    exact (ht.bounded row hrow).2

/-- What removes a finding: deleting it, deleting or replacing those of its session, or deleting
its session. -/
inductive Removes (row : Row) : Operation → Prop
  | delete (handle : Handle) : Removes row (.delete handle row.id)
  | deleteSession (handle : Handle) : Removes row (.deleteSession handle row.session)
  | replaceSession (handle : Handle) (items : List (NewFinding × Embedding)) :
    Removes row (.replaceSession handle row.session items)
  | deleteSessionRow : Removes row (.deleteSessionRow row.session)

/-- A finding that is chosen to be deleted has gone. -/
lemma not_isLive_without (h : Coherent t) {row : Row} (hrow : row ∈ t.findings)
    {chosen : Row → Bool} (hchosen : chosen row = true) : ¬ IsLive (t.without chosen).store row.id := by
  rintro hlive
  obtain ⟨other, hother, hid⟩ := isLive_store.mp hlive
  obtain ⟨hother, hkept⟩ := List.mem_filter.mp hother
  rw [h.eq_of_id_eq hother hrow hid, hchosen] at hkept
  cases hkept

/-- What removes a finding and succeeds leaves nothing under its id. -/
lemma not_isLive_of_removes (h : Coherent t) {row : Row} (hrow : row ∈ t.findings)
    {operation : Operation} (hremoves : Removes row operation) {s : Store}
    (hok : operation.action t.store = (.ok (), s)) : ¬ IsLive s row.id := by
  obtain ⟨u, rfl, hmakes⟩ := makes_of_ok h hok
  cases hremoves with
  | delete handle =>
    cases hmakes
    exact not_isLive_without h hrow (beq_self_eq_true row.id)
  | deleteSession handle =>
    cases hmakes
    exact not_isLive_without h hrow (beq_self_eq_true row.session)
  | replaceSession handle items =>
    -- the new findings come after all old ones, so that none of them has the id
    cases hmakes with
    | replaceSession told =>
      have hages := ages_addedAll (h.without _) (addAll_of_replaceSession told)
      exact hages.not_isLive (h.bounded row hrow).2
        (not_isLive_without h hrow (beq_self_eq_true row.session))
  | deleteSessionRow =>
    cases hmakes
    have hgone : ¬ IsLive (t.without (·.session == row.session)).store row.id :=
      not_isLive_without h hrow (beq_self_eq_true row.session)
    simpa [withoutSession] using hgone

end Findings.Store
