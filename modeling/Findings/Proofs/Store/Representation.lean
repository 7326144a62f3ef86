import Findings.Proofs.Store.Catalog
import Findings.Proofs.Store.ReadBack
import Findings.Proofs.Store.Reading
import Mathlib.Data.List.Forall2

/-!
# Tables that represent a catalog

Tables represent a catalog if their rows are read as its items, in order, and both have the same
embeddings. What is read from such tables is read off the catalog. What the store does to tables
when it adds findings, deletes some, or gives one an embedding, is what the catalog does.
-/
namespace Findings.Store

open Findings.Record
open Tables

/-- A row is read as the finding of an item. -/
def IsRowOf (row : Row) (item : Item) : Prop := row.finding? = some item.asFinding

lemma IsRowOf.id {row : Row} {item : Item} (h : IsRowOf row item) : row.id = item.id :=
  (id_of_finding? h).symm

lemma IsRowOf.session {row : Row} {item : Item} (h : IsRowOf row item) :
    row.session = item.finding.session :=
  (session_of_finding? h).symm

/-- Tables hold what a catalog says. -/
structure Represents (t : Tables) (c : Catalog) : Prop where
  coherent : Coherent t
  spelled : List.Forall₂ IsRowOf t.findings c.items
  embedded : ∀ id, t.vectors.find? id = (c.find? id).bind (·.embedding)
  lastId : t.lastId = c.lastId

theorem represents_fresh (dimension : Nat) : Represents (.fresh dimension) .empty :=
  ⟨coherent_fresh dimension, .nil, fun _ => rfl, rfl⟩

/-- Rows of items are read as the findings of the items. -/
lemma readRows_isRowOf {rows : List Row} {items : List Item}
    (h : List.Forall₂ IsRowOf rows items) (s : Store) :
    readRows rows s = (.ok (items.map Item.asFinding), s) := by
  have hread : rows.mapM Row.finding? = some (items.map Item.asFinding) := by
    induction h with
    | nil => rfl
    | cons hrow _ ih =>
      rw [List.mapM_cons, hrow, ih]
      rfl
  rw [readRows, hread]
  rfl

/-- Choosing rows by what they say of their items is choosing the items. -/
lemma filter_isRowOf {rows : List Row} {items : List Item} {chosen : Row → Bool}
    {wanted : Item → Bool} (h : List.Forall₂ IsRowOf rows items)
    (hsame : ∀ row item, IsRowOf row item → chosen row = wanted item) :
    List.Forall₂ IsRowOf (rows.filter chosen) (items.filter wanted) := by
  refine List.rel_filter (fun row item hrow => ?_) h
  exact Bool.eq_iff_iff.mp (hsame row item hrow)

/-- An id has a row exactly if it has an item. -/
lemma find?_isRowOf {rows : List Row} {items : List Item} (h : List.Forall₂ IsRowOf rows items)
    (id : Int) :
    Option.Rel IsRowOf (rows.find? (·.id == id)) (items.find? (·.id == id)) := by
  induction h with
  | nil => exact .none
  | cons hrow _ ih =>
    rw [List.find?_cons, List.find?_cons, hrow.id]
    split
    · exact .some hrow
    · exact ih

namespace Represents

variable {t : Tables} {c : Catalog}

lemma row_of_none (h : Represents t c) {id : Int} (hnone : c.find? id = none) :
    t.findings.find? (·.id == id) = none := by
  have hrel : Option.Rel IsRowOf _ (c.find? id) := find?_isRowOf h.spelled id
  rw [hnone] at hrel
  generalize t.findings.find? (·.id == id) = found at hrel
  cases hrel
  rfl

lemma row_of_some (h : Represents t c) {id : Int} {item : Item} (hitem : c.find? id = some item) :
    ∃ row, t.findings.find? (·.id == id) = some row ∧ IsRowOf row item := by
  have hrel : Option.Rel IsRowOf _ (c.find? id) := find?_isRowOf h.spelled id
  rw [hitem] at hrel
  generalize t.findings.find? (·.id == id) = found at hrel
  cases hrel with
  | some hrow => exact ⟨_, rfl, hrow⟩

lemma any_findings (h : Represents t c) (id : Int) :
    t.findings.any (·.id == id) = (c.find? id).isSome := by
  rw [← List.isSome_find?]
  cases hfound : c.find? id with
  | none =>
    rw [h.row_of_none hfound]
    rfl
  | some item =>
    obtain ⟨row, hrow, -⟩ := h.row_of_some hfound
    rw [hrow]
    rfl

theorem get?_store (h : Represents t c) (handle : Handle) (id : Int) :
    get? handle id t.store = (.ok ((c.find? id).map Item.asFinding), t.store) := by
  cases hfound : c.find? id with
  | none => simp [get?, require_findings, h.row_of_none hfound]
  | some item =>
    obtain ⟨row, hrow, hitem⟩ := h.row_of_some hfound
    have hread : readRows [row] t.store = (.ok [item.asFinding], t.store) :=
      readRows_isRowOf (.cons hitem .nil) t.store
    simp [get?, require_findings, hrow, hread]

theorem getMany_store (h : Represents t c) (handle : Handle) (ids : List Int) :
    getMany handle ids t.store =
      if maxIds < ids.length then (.error (.table .tooManyIds), t.store)
      else (.ok ((c.items.filter fun item => ids.contains item.id).map Item.asFinding),
        t.store) := by
  have hrows : List.Forall₂ IsRowOf (t.rowsOf ids)
      (c.items.filter fun item => ids.contains item.id) :=
    filter_isRowOf h.spelled fun row item hrow => by rw [hrow.id]
  rw [getMany, bind_apply, ensureSchema_store]
  simp only [lookUp_store, readRows_isRowOf hrows]
  by_cases hempty : ids = []
  · simp [hempty]
  · rw [if_neg hempty]

theorem listSession_store (h : Represents t c) (handle : Handle) (session : String) :
    listSession handle session t.store =
      (.ok ((c.ofSession session).map Item.asFinding), t.store) := by
  have hrows : List.Forall₂ IsRowOf (t.findings.filter (·.session == session))
      (c.ofSession session) :=
    filter_isRowOf h.spelled fun row item hrow => by rw [hrow.session]
  simp [listSession, require_findings, readRows_isRowOf hrows]

/-- A new finding goes to the end of the rows and of the items. -/
lemma add (h : Represents t c) (hlast : t.lastId < maxId) (f : NewFinding)
    {embedding : Option Embedding} (hfits : ∀ vector ∈ embedding, t.Fits vector) :
    Represents (t.added f embedding) (c.add f.settled embedding) where
  coherent := h.coherent.added hlast f hfits
  spelled := by
    rw [h.coherent.findings_added]
    have hnew : IsRowOf (.ofNew (t.lastId + 1) f) ⟨c.lastId + 1, f.settled, embedding⟩ := by
      rw [IsRowOf, finding?_ofNew, h.lastId]
      rfl
    exact List.rel_append h.spelled (.cons hnew .nil)
  embedded id := by
    rw [Catalog.find?_add, ← h.lastId, h.coherent.find?_added]
    split_ifs
    · rfl
    · exact h.embedded id
  lastId := by
    rw [lastId_added, h.lastId]
    rfl

/-- Deleting rows is keeping the other items. -/
lemma keep (h : Represents t c) {chosen : Row → Bool} {kept : Item → Bool}
    (hsame : ∀ row item, IsRowOf row item → (!chosen row) = kept item) :
    Represents (t.without chosen) (c.keep kept) where
  coherent := h.coherent.without chosen
  spelled := filter_isRowOf h.spelled hsame
  embedded id := by
    have hembedded := h.embedded id
    rw [Catalog.find?_keep]
    cases hfound : c.find? id with
    | none =>
      rw [without, find?_eraseAll, hembedded, hfound]
      exact ite_self none
    | some item =>
      obtain ⟨row, hrow, hitem⟩ := h.row_of_some hfound
      obtain rfl : row.id = id := by simpa using List.find?_some hrow
      rw [h.coherent.find?_without (List.mem_of_find?_eq_some hrow), hembedded, hfound,
        Option.filter_some, ← hsame row item hitem]
      cases chosen row <;> rfl
  lastId := h.lastId

/-- New findings that all fit may be added one after another. -/
lemma addAll (h : Represents t c) {new : List (NewFinding × Embedding)}
    (hlast : t.lastId + new.length ≤ maxId) (hfits : ∀ item ∈ new, t.Fits item.2) :
    Represents (t.addedAll new) (c.addAll (new.map fun item => (item.1.settled, item.2))) := by
  induction new generalizing t c with
  | nil => exact h
  | cons item new ih =>
    rw [List.length_cons] at hlast
    have hitem : ∀ vector ∈ some item.2, t.Fits vector := by
      rintro vector ⟨⟩
      exact hfits item List.mem_cons_self
    have hadd := h.add (by omega) item.1 hitem
    refine ih hadd ?_ fun other hother => ?_
    · rw [lastId_added]
      omega
    · obtain ⟨hfilled, hlength⟩ := hfits other (List.mem_cons_of_mem _ hother)
      exact ⟨hfilled, hlength.trans (dimension_added _ _ _).symm⟩

/-- A finding that exists may be given an embedding in place of the one it has. -/
lemma embed (h : Represents t c) {id : Int} {embedding : Embedding}
    (hlive : (c.find? id).isSome = true) (hfits : t.Fits embedding) :
    Represents ((t.withoutEmbedding id).withEmbedding id embedding) (c.embed id embedding) where
  coherent := by
    obtain ⟨hfilled, hlength⟩ := hfits
    rw [← h.any_findings, List.any_eq_true] at hlive
    obtain ⟨row, hrow, hid⟩ := hlive
    refine (h.coherent.withoutEmbedding id).withEmbedding ⟨row, hrow, beq_iff_eq.mp hid⟩ ?_
      hlength hfilled
    exact (Vector.Table.find?_erase _ _ _).trans (if_pos rfl)
  spelled := by
    refine List.forall₂_map_right_iff.mpr (h.spelled.imp fun row item hrow => ?_)
    split_ifs <;> exact hrow
  embedded other := by
    have hnone : (t.vectors.erase id).find? id = none := by
      rw [Vector.Table.find?_erase, if_pos rfl]
    have honce : ((t.vectors.erase id).rows.map (·.1)).Nodup :=
      (h.coherent.withoutEmbedding id).embeddedOnce
    have hput : ((t.withoutEmbedding id).withEmbedding id embedding).vectors =
        (t.vectors.erase id).put id embedding := rfl
    rw [Catalog.find?_embed, hput, Vector.Table.find?_put honce hnone]
    obtain ⟨item, hitem⟩ := Option.isSome_iff_exists.mp hlive
    split_ifs with hid
    · rw [hitem]
      rfl
    · rw [Vector.Table.find?_erase, if_neg hid]
      exact h.embedded other
  lastId := h.lastId

end Represents

end Findings.Store
