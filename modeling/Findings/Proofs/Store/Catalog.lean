import Findings.Proofs.Store.Outcomes
import Findings.Store.Read

/-!
# Catalogs

What a user may take the store for: a finite map from ids to new findings and the embeddings that
they may have, together with the last id that was given. A catalog knows nothing of tables, texts
of columns or slots. It answers requests by the map alone, and a request changes the map at the
ids that it is about and nowhere else.
-/
namespace Findings.Store

open Findings.Record

/-- A finding of a catalog under its id, with the embedding that it may have. -/
structure Item where
  id : Int
  finding : NewFinding
  embedding : Option Embedding
  deriving DecidableEq, Repr

/-- The finding as it is given back: as it was stored, with its id. -/
def Item.asFinding (item : Item) : Finding := { item.finding with id := item.id }

/-- A map from ids to findings, by its items in the order in which they were added. Ids rise in
that order and are never above the last id that was given. -/
structure Catalog where
  items : List Item
  lastId : Int
  rising : items.Pairwise fun a b => a.id < b.id
  bounded : ∀ item ∈ items, item.id ≤ lastId

namespace Catalog

def empty : Catalog := ⟨[], 0, .nil, by simp⟩

def find? (c : Catalog) (id : Int) : Option Item := c.items.find? (·.id == id)

def ofSession (c : Catalog) (session : String) : List Item :=
  c.items.filter (·.finding.session == session)

/-- The catalog with a finding more, under the next id. -/
def add (c : Catalog) (f : NewFinding) (embedding : Option Embedding) : Catalog where
  items := c.items ++ [⟨c.lastId + 1, f, embedding⟩]
  lastId := c.lastId + 1
  rising := by
    refine List.pairwise_append.mpr ⟨c.rising, List.pairwise_singleton _ _, ?_⟩
    rintro item hitem other hother
    obtain rfl := List.mem_singleton.mp hother
    exact Int.lt_add_one_iff.mpr (c.bounded item hitem)
  bounded := by
    intro item hitem
    rcases List.mem_append.mp hitem with hitem | hitem
    · exact Int.le_add_one (c.bounded item hitem)
    · obtain rfl := List.mem_singleton.mp hitem
      exact Int.le_refl _

/-- The catalog with several findings more, one after another. -/
def addAll (c : Catalog) (new : List (NewFinding × Embedding)) : Catalog :=
  new.foldl (fun c item => c.add item.1 (some item.2)) c

def keep (c : Catalog) (kept : Item → Bool) : Catalog where
  items := c.items.filter kept
  lastId := c.lastId
  rising := c.rising.filter _
  bounded item hitem := c.bounded item (List.mem_of_mem_filter hitem)

def embed (c : Catalog) (id : Int) (embedding : Embedding) : Catalog where
  items := c.items.map fun item =>
    if item.id = id then { item with embedding := some embedding } else item
  lastId := c.lastId
  rising := by
    refine List.pairwise_map.mpr (c.rising.imp fun {a b} hlt => ?_)
    split_ifs <;> exact hlt
  bounded := by
    intro item hitem
    obtain ⟨old, hold, rfl⟩ := List.mem_map.mp hitem
    split_ifs <;> exact c.bounded old hold

variable {c : Catalog}

/-- Items are told apart by their ids. -/
lemma eq_of_id_eq {a b : Item} (ha : a ∈ c.items) (hb : b ∈ c.items) (hid : a.id = b.id) :
    a = b := by
  have honce : (c.items.map (·.id)).Nodup :=
    List.pairwise_map.mpr (c.rising.imp fun hlt => Int.ne_of_lt hlt)
  exact List.inj_on_of_nodup_map honce ha hb hid

lemma find?_eq_some_iff {id : Int} {item : Item} :
    c.find? id = some item ↔ item ∈ c.items ∧ item.id = id := by
  constructor
  · intro hfound
    exact ⟨List.mem_of_find?_eq_some hfound, by simpa using List.find?_some hfound⟩
  · rintro ⟨hitem, rfl⟩
    cases hfound : c.find? item.id with
    | none => simpa using List.find?_eq_none.mp hfound item hitem
    | some other =>
      have hother : other ∈ c.items := List.mem_of_find?_eq_some hfound
      have hid : other.id = item.id := by simpa using List.find?_some hfound
      rw [eq_of_id_eq hother hitem hid]

lemma find?_of_lastId_lt {id : Int} (hid : c.lastId < id) : c.find? id = none := by
  cases hfound : c.find? id with
  | none => rfl
  | some item =>
    obtain ⟨hitem, rfl⟩ := find?_eq_some_iff.mp hfound
    exact absurd (c.bounded item hitem) (Int.not_le.mpr hid)

theorem find?_add (f : NewFinding) (embedding : Option Embedding) (id : Int) :
    (c.add f embedding).find? id =
      if id = c.lastId + 1 then some ⟨c.lastId + 1, f, embedding⟩ else c.find? id := by
  have hsplit : (c.add f embedding).find? id =
      (c.find? id).or ([⟨c.lastId + 1, f, embedding⟩].find? (·.id == id)) := List.find?_append
  rw [hsplit]
  split_ifs with hid
  · rw [find?_of_lastId_lt (by omega)]
    simp [hid]
  · have hne : ¬ c.lastId + 1 = id := fun heq => hid heq.symm
    simp [hne]

theorem find?_keep (kept : Item → Bool) (id : Int) :
    (c.keep kept).find? id = (c.find? id).filter kept := by
  ext item
  rw [find?_eq_some_iff, Option.filter_eq_some_iff, find?_eq_some_iff]
  simp only [keep, List.mem_filter]
  tauto

theorem find?_embed (id other : Int) (embedding : Embedding) :
    (c.embed id embedding).find? other =
      if other = id then (c.find? id).map fun item => { item with embedding := some embedding }
      else c.find? other := by
  have hids : ((fun item : Item => item.id == other) ∘ fun item : Item =>
      if item.id = id then { item with embedding := some embedding } else item) =
      fun item => item.id == other := by
    funext item
    simp only [Function.comp_apply]
    split_ifs <;> rfl
  have hmap : (c.embed id embedding).find? other = (c.find? other).map fun item =>
      if item.id = id then { item with embedding := some embedding } else item := by
    rw [find?, embed, List.find?_map, hids]
    rfl
  rw [hmap]
  cases hfound : c.find? other with
  | none =>
    split_ifs with hid
    · rw [← hid, hfound]
      rfl
    · rfl
  | some item =>
    obtain ⟨-, rfl⟩ := find?_eq_some_iff.mp hfound
    split_ifs with hid
    · rw [← hid, hfound, Option.map_some, if_pos rfl]
      rfl
    · rw [Option.map_some, if_neg hid]

lemma addAll_cons (item : NewFinding × Embedding) (new : List (NewFinding × Embedding)) :
    c.addAll (item :: new) = (c.add item.1 (some item.2)).addAll new := rfl

lemma find?_addAll {new : List (NewFinding × Embedding)} {id : Int}
    (h : id ∉ idsAfter c.lastId new.length) : (c.addAll new).find? id = c.find? id := by
  induction new generalizing c with
  | nil => rfl
  | cons item new ih =>
    rw [List.length_cons, idsAfter_succ, List.mem_cons, not_or] at h
    rw [addAll_cons, ih h.2, find?_add, if_neg h.1]

lemma find?_keep_others {session : String} {id : Int}
    (h : ¬∃ item ∈ c.ofSession session, item.id = id) :
    (c.keep (·.finding.session != session)).find? id = c.find? id := by
  rw [find?_keep]
  cases hfound : c.find? id with
  | none => rfl
  | some item =>
    obtain ⟨hitem, hid⟩ := find?_eq_some_iff.mp hfound
    have hother : item.finding.session ≠ session := by
      intro hsession
      exact h ⟨item, List.mem_filter.mpr ⟨hitem, by simpa using hsession⟩, hid⟩
    simp [hother]

end Catalog

/-- What can be asked of a store that is kept open: it may be opened again, for embeddings of some
dimension, written, and read. -/
inductive Request where
  | reopen (dimension : Nat)
  | insert (f : NewFinding) (embedding : Option Embedding)
  | replaceSession (session : String) (new : List (NewFinding × Embedding))
  | setEmbedding (id : Int) (embedding : Embedding)
  | delete (id : Int)
  | deleteSession (session : String)
  | get (id : Int)
  | getMany (ids : List Int)
  | listSession (session : String)

/-- What is answered to a request that succeeds. -/
inductive Answer where
  | done
  | id (id : Int)
  | ids (ids : List Int)
  | deleted (existed : Bool)
  | count (findings : Nat)
  | found (finding : Option Finding)
  | findings (findings : List Finding)
  deriving DecidableEq, Repr

namespace Catalog

/-- What a catalog for embeddings of a dimension answers to a request, and the catalog after it. -/
def serve (dimension : Nat) (c : Catalog) : Request → Except Error Answer × Catalog
  | .reopen other => (if dimension = other then .ok .done else .error (.dimension dimension other), c)
  | .insert f embedding =>
    match refusal dimension f embedding with
    | some e => (.error e, c)
    | none =>
      if maxId ≤ c.lastId then (.error (.table .full), c)
      else (.ok (.id (c.lastId + 1)), c.add f embedding)
  | .replaceSession session new =>
    match new.findSome? (refusalFor dimension session) with
    | some e => (.error e, c)
    | none =>
      if maxId < c.lastId + new.length then (.error (.table .full), c)
      else (.ok (.ids (idsAfter c.lastId new.length)),
        (c.keep (·.finding.session != session)).addAll new)
  | .setEmbedding id embedding =>
    if embedding.length ≠ dimension then (.error (.dimension dimension embedding.length), c)
    else if (c.find? id).isSome then (.ok .done, c.embed id embedding)
    else (.error (.finding (.missing id)), c)
  | .delete id => (.ok (.deleted (c.find? id).isSome), c.keep (·.id != id))
  | .deleteSession session =>
    (.ok (.count (c.ofSession session).length), c.keep (·.finding.session != session))
  | .get id => (.ok (.found ((c.find? id).map Item.asFinding)), c)
  | .getMany ids =>
    (if maxIds < ids.length then .error (.table .tooManyIds)
      else .ok (.findings ((c.items.filter fun item => ids.contains item.id).map Item.asFinding)), c)
  | .listSession session => (.ok (.findings ((c.ofSession session).map Item.asFinding)), c)

/-- Whether a request may change what a catalog has under an id. -/
def Concerns (c : Catalog) : Request → Int → Prop
  | .insert _ _, id => id = c.lastId + 1
  | .replaceSession session new, id =>
    (∃ item ∈ c.ofSession session, item.id = id) ∨ id ∈ idsAfter c.lastId new.length
  | .setEmbedding changed _, id => id = changed
  | .delete deleted, id => id = deleted
  | .deleteSession session, id => ∃ item ∈ c.ofSession session, item.id = id
  | _, _ => False

variable {c : Catalog}

/-- A request leaves everything that it does not concern. -/
theorem find?_serve {request : Request} {id : Int} (h : ¬ c.Concerns request id)
    (dimension : Nat) : (c.serve dimension request).2.find? id = c.find? id := by
  cases request with
  | reopen other => rfl
  | insert f embedding =>
    rw [serve]
    cases refusal dimension f embedding with
    | some e => rfl
    | none =>
      by_cases hfull : maxId ≤ c.lastId
      · simp only [if_pos hfull]
      · simp only [if_neg hfull]
        exact (find?_add f embedding id).trans (if_neg h)
  | replaceSession session new =>
    obtain ⟨hsession, hnew⟩ := not_or.mp h
    rw [serve]
    cases new.findSome? (refusalFor dimension session) with
    | some e => rfl
    | none =>
      by_cases hshort : maxId < c.lastId + new.length
      · simp only [if_pos hshort]
      · have hnew : id ∉ idsAfter (c.keep (·.finding.session != session)).lastId new.length := hnew
        simp only [if_neg hshort]
        exact (find?_addAll hnew).trans (find?_keep_others hsession)
  | setEmbedding changed embedding =>
    rw [serve]
    by_cases hlength : embedding.length = dimension
    · by_cases hlive : (c.find? changed).isSome = true
      · simp only [if_neg (not_not.mpr hlength), if_pos hlive]
        exact (find?_embed changed id embedding).trans (if_neg h)
      · simp only [if_neg (not_not.mpr hlength), if_neg hlive]
    · simp only [if_pos hlength]
  | delete deleted =>
    have hid : ¬ id = deleted := h
    rw [serve, find?_keep]
    cases hfound : c.find? id with
    | none => rfl
    | some item =>
      obtain ⟨-, rfl⟩ := find?_eq_some_iff.mp hfound
      simp [hid]
  | deleteSession session => exact find?_keep_others h
  | get id => rfl
  | getMany ids => rfl
  | listSession session => rfl

end Catalog

end Findings.Store
