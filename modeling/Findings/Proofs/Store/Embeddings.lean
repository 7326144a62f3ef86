import Findings.Proofs.Store.Replacing

/-!
# Embeddings as a map

Which finding has which embedding is a map from ids to embeddings. Setting an embedding takes one
row out of a table and puts another in, but on the map it is an assignment, whatever was assigned
before. So the last embedding that is set for an id counts, embeddings of different ids may be set
in any order, and a finding may be inserted first and get its embedding afterwards.
-/
namespace Findings.Store

open Findings.Record
open Operation
open Tables

variable {t : Tables} {handle : Handle} {s : Store}

/-- A handle that a store is opened with: opening refuses embeddings of no components, and those
of another length than the table of the store has. -/
structure Opens (handle : Handle) (s : Store) : Prop where
  positive : 0 < handle.dimension
  accepted : (checkHandle handle s).1 = .ok ()

lemma opens_store : Opens handle t.store ↔ Opened handle t := by
  constructor
  · intro h
    have haccepted := h.accepted
    rw [checkHandle_store] at haccepted
    split_ifs at haccepted with hdimension
    exact ⟨hdimension, h.positive⟩
  · exact fun h => ⟨h.positive, by rw [checkHandle_store, if_pos h.dimension]⟩

/-- The map from ids to embeddings after an assignment to it. Nothing is assigned to an id that has
no finding, and no embedding of another length than the handle has. -/
def assign (handle : Handle) (s : Store) (map : Int → Option Embedding)
    (assignment : Int × Embedding) : Int → Option Embedding :=
  if assignment.2.length = handle.dimension ∧ IsLive s assignment.1 then
    Function.update map assignment.1 (some assignment.2)
  else map

/-- The store after embeddings have been set, one after another. -/
def setAll (handle : Handle) (assignments : List (Int × Embedding)) (s : Store) : Store :=
  run (assignments.map fun assignment => .setEmbedding handle assignment.1 assignment.2) s

/-! ### One assignment -/

/-- Taking an embedding out and putting another in assigns the new one. -/
lemma Coherent.find?_withEmbedding (h : Coherent t) (id : Int) (embedding : Embedding) :
    ((t.withoutEmbedding id).withEmbedding id embedding).vectors.find? =
      Function.update t.vectors.find? id (some embedding) := by
  have hnone : (t.vectors.erase id).find? id = none := by
    rw [Vector.Table.find?_erase, if_pos rfl]
  have honce : ((t.vectors.erase id).rows.map (·.1)).Nodup := (h.withoutEmbedding id).embeddedOnce
  funext other
  change ((t.vectors.erase id).put id embedding).find? other = _
  rw [Vector.Table.find?_put honce hnone, Vector.Table.find?_erase, Function.update_apply]
  split_ifs <;> rfl

/-- What setting an embedding leaves of a store: the assignment is made, and nothing but the
embeddings changes. -/
structure Assigned (handle : Handle) (s : Store) (assignment : Int × Embedding) (u : Store) :
    Prop where
  opens : Opens handle u
  rest : u = { s with vectors := u.vectors }
  embeddings : embeddingOf u = assign handle s (embeddingOf s) assignment

lemma assigned_self (hopen : Opens handle s) {assignment : Int × Embedding}
    (hnot : ¬(assignment.2.length = handle.dimension ∧ IsLive s assignment.1)) :
    Assigned handle s assignment s :=
  ⟨hopen, rfl, (if_neg hnot).symm⟩

/-- Setting an embedding through a handle that opens the store makes the assignment. -/
theorem assigned_setEmbedding (hs : Reachable s) (hopen : Opens handle s)
    (assignment : Int × Embedding) :
    Assigned handle s assignment
      (perform s (.setEmbedding handle assignment.1 assignment.2)) := by
  obtain rfl | ⟨dimension, t, rfl, ht, -⟩ := reachable_cases hs
  · rw [perform_empty_of_applies_eq_false rfl]
    exact assigned_self hopen fun h => not_isLive_empty _ h.2
  have hopened := opens_store.mp hopen
  have hany : t.findings.any (·.id == assignment.1) = true ↔ IsLive t.store assignment.1 := by simp
  rw [perform, action, setEmbedding_eq hopened]
  by_cases hlength : assignment.2.length = handle.dimension
  · rw [if_neg (not_not.mpr hlength)]
    by_cases hlive : IsLive t.store assignment.1
    · rw [if_pos (hany.mpr hlive)]
      refine ⟨opens_store.mpr ⟨hopened.dimension, hopened.positive⟩, rfl, ?_⟩
      exact (ht.find?_withEmbedding _ _).trans (if_pos ⟨hlength, hlive⟩).symm
    · rw [if_neg (hany.not.mpr hlive)]
      exact assigned_self hopen fun h => hlive h.2
  · rw [if_pos hlength]
    exact assigned_self hopen fun h => hlength h.1

/-- An assignment does not change to which ids embeddings can be assigned. -/
lemma Assigned.assign_eq {u : Store} {assignment : Int × Embedding}
    (h : Assigned handle s assignment u) : assign handle u = assign handle s := by
  have hlive : ∀ id, IsLive u id ↔ IsLive s id := by
    intro id
    rw [h.rest]
    rfl
  funext map other
  simp only [assign, hlive]

/-! ### Assignments one after another -/

/-- Setting embeddings makes the assignments in their order, and nothing else changes. -/
theorem embeddingOf_setAll (hs : Reachable s) (hopen : Opens handle s)
    (assignments : List (Int × Embedding)) :
    setAll handle assignments s = { s with vectors := (setAll handle assignments s).vectors } ∧
      embeddingOf (setAll handle assignments s) =
        assignments.foldl (assign handle s) (embeddingOf s) := by
  induction assignments generalizing s with
  | nil => exact ⟨rfl, rfl⟩
  | cons assignment rest ih =>
    have hfirst := assigned_setEmbedding hs hopen assignment
    have hreachable : Reachable (perform s (.setEmbedding handle assignment.1 assignment.2)) :=
      reachable_run hs [_]
    obtain ⟨hrest, hmap⟩ := ih hreachable hfirst.opens
    have hcons : setAll handle (assignment :: rest) s =
        setAll handle rest (perform s (.setEmbedding handle assignment.1 assignment.2)) := rfl
    rw [hcons]
    refine ⟨?_, ?_⟩
    · rw [hrest, hfirst.rest]
    · rw [List.foldl_cons, ← hfirst.embeddings, ← hfirst.assign_eq]
      exact hmap

lemma assign_assign (map : Int → Option Embedding) (id : Int) (first : Embedding)
    {second : Embedding} (hlength : second.length = handle.dimension) :
    assign handle s (assign handle s map (id, first)) (id, second) =
      assign handle s map (id, second) := by
  by_cases hlive : IsLive s id
  · simp only [assign, hlength, hlive, and_true, if_true]
    split_ifs
    · exact Function.update_idem ..
    · rfl
  · simp only [assign, hlive, and_false, if_false]

lemma assign_comm (map : Int → Option Embedding) {a b : Int × Embedding} (hne : a.1 ≠ b.1) :
    assign handle s (assign handle s map a) b = assign handle s (assign handle s map b) a := by
  unfold assign
  split_ifs
  · exact Function.update_comm hne ..
  all_goals rfl

/-! ### The finding first -/

/-- Inserts a finding without an embedding, and sets its embedding afterwards. -/
def insertThenSet (handle : Handle) (f : NewFinding) (embedding : Embedding) : Action Int := do
  let id ← insert handle f none
  setEmbedding handle id embedding
  return id

lemma refusal_some {dimension : Nat} (f : NewFinding) {embedding : Embedding}
    (hlength : embedding.length = dimension) :
    refusal dimension f (some embedding) = refusal dimension f none := by
  simp [refusal, hlength]

/-- Without a schema no finding is stored. -/
lemma insert_empty (f : NewFinding) (embedding : Option Embedding) :
    insert handle f embedding {} =
      (.error ((refusal handle.dimension f embedding).getD (.schemaMissing handle.path)), {}) := by
  rw [insert, validate_eq]
  cases refusal handle.dimension f embedding <;> rfl

/-- A new finding has no embedding to be taken out. -/
lemma Coherent.withoutEmbedding_withFinding (h : Coherent t) (f : NewFinding) :
    (t.withFinding f).withoutEmbedding (t.lastId + 1) = t.withFinding f := by
  have hnone : (t.withFinding f).vectors.find? (t.lastId + 1) = none := by
    rw [withFinding_vectors]
    exact h.find?_of_lastId_lt (Int.lt_add_one_of_le (Int.le_refl _))
  rw [Tables.withoutEmbedding, Vector.Table.erase_of_find?_eq_none hnone]

theorem insertThenSet_eq (hs : Reachable s) (hopen : Opens handle s) (f : NewFinding)
    {embedding : Embedding} (hlength : embedding.length = handle.dimension) :
    insertThenSet handle f embedding s = insert handle f (some embedding) s := by
  have hrefusal := refusal_some f hlength
  obtain rfl | ⟨dimension, t, rfl, ht, -⟩ := reachable_cases hs
  · rw [insertThenSet, bind_apply, insert_empty, insert_empty, hrefusal]
  have hopened := opens_store.mp hopen
  rw [insertThenSet, bind_apply, insert_eq ht hopened, insert_eq ht hopened, hrefusal]
  cases refusal handle.dimension f none with
  | some e => rfl
  | none =>
    by_cases hfull : maxId ≤ t.lastId
    · simp only [if_pos hfull]
    · have hopened' : Opened handle (t.withFinding f) :=
        ⟨(congrArg Vector.Table.dimension (withFinding_vectors t f)).trans hopened.dimension,
          hopened.positive⟩
      have hnew : (t.withFinding f).findings.any (·.id == t.lastId + 1) = true := by
        simpa using ht.exists_withFinding f
      have hset : setEmbedding handle (t.lastId + 1) embedding (t.withFinding f).store =
          (.ok (), (t.added f (some embedding)).store) := by
        rw [setEmbedding_eq hopened', if_neg (not_not.mpr hlength), if_pos hnew,
          ht.withoutEmbedding_withFinding]
        rfl
      simp only [if_neg hfull, bind_apply, added] at hset ⊢
      rw [hset]
      rfl

/-! ### A map -/

/-- Embeddings that are set through a handle behave like assignments to a map. -/
structure SetsAsAssigned (handle : Handle) (s : Store) : Prop where
  /-- Setting an embedding of the right length succeeds exactly if there is the finding. -/
  succeeds : ∀ id embedding, embedding.length = handle.dimension →
    ((∃ u, setEmbedding handle id embedding s = (.ok (), u)) ↔ IsLive s id)
  /-- Then the finding has the embedding, no other one's changes, and nothing else does. -/
  assigned : ∀ id embedding u, setEmbedding handle id embedding s = (.ok (), u) →
    u = { s with vectors := u.vectors } ∧
      embeddingOf u = Function.update (embeddingOf s) id (some embedding)
  /-- Several are assigned in their order. -/
  inOrder : ∀ assignments,
    setAll handle assignments s = { s with vectors := (setAll handle assignments s).vectors } ∧
      embeddingOf (setAll handle assignments s) =
        assignments.foldl (assign handle s) (embeddingOf s)
  overwritten : ∀ id (first second : Embedding), second.length = handle.dimension →
    embeddingOf (setAll handle [(id, first), (id, second)] s) =
      embeddingOf (setAll handle [(id, second)] s)
  anyOrder : ∀ a b : Int × Embedding, a.1 ≠ b.1 →
    embeddingOf (setAll handle [a, b] s) = embeddingOf (setAll handle [b, a] s)
  /-- A finding that is inserted first is stored as if its embedding had been given with it. -/
  insertedFirst : ∀ f (embedding : Embedding), embedding.length = handle.dimension →
    insertThenSet handle f embedding s = insert handle f (some embedding) s

/-- In every reachable store, setting embeddings through a handle that opens it is assigning to the
map from ids to embeddings. -/
theorem setting_is_assigning (hs : Reachable s) (hopen : Opens handle s) :
    SetsAsAssigned handle s := by
  have hmap := embeddingOf_setAll hs hopen
  constructor
  case succeeds =>
    intro id embedding hlength
    constructor
    · rintro ⟨u, hok⟩
      by_contra hgone
      have hmissing : ∀ rows ∈ s.findings, ∀ row ∈ rows, row.id ≠ id :=
        fun rows hrows row hrow hid => hgone ⟨rows, hrows, row, hrow, hid⟩
      rw [setEmbedding_missing hmissing] at hok
      cases hok
    · intro hlive
      obtain rfl | ⟨dimension, t, rfl, ht, -⟩ := reachable_cases hs
      · exact absurd hlive (not_isLive_empty id)
      · have hany : t.findings.any (·.id == id) = true := by simpa using hlive
        rw [setEmbedding_eq (opens_store.mp hopen), if_neg (not_not.mpr hlength), if_pos hany]
        exact ⟨_, rfl⟩
  case assigned =>
    intro id embedding u hok
    obtain rfl | ⟨dimension, t, rfl, ht, -⟩ := reachable_cases hs
    · rw [setEmbedding_missing (by rintro rows ⟨⟩)] at hok
      cases hok
    · obtain ⟨-, -, rfl⟩ := setEmbedding_store hok
      exact ⟨rfl, ht.find?_withEmbedding id embedding⟩
  case inOrder => exact hmap
  case overwritten =>
    intro id first second hlength
    rw [(hmap _).2, (hmap _).2]
    exact assign_assign _ id first hlength
  case anyOrder =>
    intro a b hne
    rw [(hmap _).2, (hmap _).2]
    exact assign_comm _ hne
  case insertedFirst => exact fun f embedding hlength => insertThenSet_eq hs hopen f hlength

/-- Of two findings the second has an embedding. It gets another one, and the first gets its own. -/
theorem setting_is_assigning_both :
    let opened : Handle := ⟨"findings.db", 1⟩
    let finding : NewFinding :=
      { session := "s", kind := .praise, content := "a", severity := .low }
    let s := run [.applySchema opened, .insert opened finding none,
      .insert opened finding (some [Number.Binary.zero])] {}
    let negative : Embedding := [⟨true, 0⟩]
    Reachable s ∧ Opens opened s ∧ SetsAsAssigned opened s ∧
      embeddingOf (setAll opened [(2, negative), (1, [Number.Binary.zero])] s) 2 = some negative ∧
      embeddingOf (setAll opened [(2, negative), (1, [Number.Binary.zero])] s) =
        embeddingOf (setAll opened [(1, [Number.Binary.zero]), (2, negative)] s) := by
  intro opened finding s negative
  have hs : Reachable s := ⟨_, rfl⟩
  have hopen : Opens opened s := ⟨Nat.one_pos, by decide +kernel⟩
  have hsets := setting_is_assigning hs hopen
  exact ⟨hs, hopen, hsets, by decide +kernel, hsets.anyOrder _ _ (by decide)⟩

end Findings.Store
