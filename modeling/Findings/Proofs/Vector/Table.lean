import Findings.Vector.Table
import Mathlib.Data.List.Nodup
import Mathlib.Data.List.Perm.Basic
import Mathlib.Tactic.Common

/-!
# What a table of embeddings holds

The slots of the blocks decide the order of the embeddings, but what is stored is told by the
rows alone: a new embedding is one row more, whichever slot it takes, and erasing an id keeps all
other rows in their order.
-/
namespace Findings

/-- An item of another key is found whether or not those of one key have been left out. -/
lemma find?_filter_ne {α β : Type} [BEq β] [LawfulBEq β] [DecidableEq β] (key : α → β)
    (items : List α) (gone k : β) :
    (items.filter fun item => key item != gone).find? (fun item => key item == k) =
      if k = gone then none else items.find? fun item => key item == k := by
  rw [List.find?_filter]
  split_ifs with hk
  · simp [hk]
  · have hsame : (fun item => decide ((key item != gone) = true ∧ (key item == k) = true)) =
        fun item => key item == k := by
      funext item
      by_cases hitem : key item = k <;> simp [hitem, hk]
    rw [hsame]

end Findings

namespace Findings.Vector

open Findings.Record

namespace Block

lemma rows_clear (id : Int) (block : Block) :
    (block.clear id).rows = block.rows.filter (·.1 != id) := by
  rw [rows, rows, clear, List.filterMap_map, List.filter_filterMap]
  rfl

/-- A block without an id keeps its slots when the id is cleared. -/
lemma clear_of_forall_ne {id : Int} {block : Block} (h : ∀ row ∈ block.rows, row.1 ≠ id) :
    block.clear id = block := by
  refine (List.map_congr_left fun slot hslot => ?_).trans (List.map_id block)
  cases slot with
  | none => rfl
  | some row =>
    have hne : row.1 ≠ id := h row (List.mem_filterMap.mpr ⟨some row, hslot, rfl⟩)
    simp [hne]

lemma rows_put? {row : Stored} {free : Nat} {block filled : Block}
    (h : block.put? row free = some filled) : filled.rows.Perm (row :: block.rows) := by
  fun_induction put? row free block generalizing filled with
  | case1 => cases h
  | case2 => cases h; exact .refl _
  | case3 => cases h; exact .refl _
  | case4 free other slots ih =>
    obtain ⟨rest, hrest, rfl⟩ := Option.map_eq_some_iff.mp h
    exact ((ih hrest).cons other).trans (.swap row other _)

end Block

namespace Table

@[simp] theorem rows_empty (dimension : Nat) : (empty dimension).rows = [] := rfl

@[simp] theorem dimension_empty (dimension : Nat) : (empty dimension).dimension = dimension := rfl

@[simp] theorem dimension_erase (t : Table) (id : Int) : (t.erase id).dimension = t.dimension := rfl

@[simp] theorem rows_erase (t : Table) (id : Int) :
    (t.erase id).rows = t.rows.filter (·.1 != id) := by
  simp [rows, erase, List.flatMap_map, ← List.map_reverse, Block.rows_clear, List.filter_flatMap]

lemma rows_putRow (row : Stored) (blocks : List Block) :
    ((putRow row blocks).reverse.flatMap Block.rows).Perm
      (row :: blocks.reverse.flatMap Block.rows) := by
  cases blocks with
  | nil => exact .refl _
  | cons block older =>
    simp only [putRow]
    cases h : block.put? row blockSize with
    | none =>
      simp only [List.reverse_cons, List.flatMap_append, List.flatMap_singleton]
      exact List.perm_append_singleton row _
    | some filled =>
      simp only [List.reverse_cons, List.flatMap_append, List.flatMap_singleton]
      exact ((Block.rows_put? h).append_left _).trans List.perm_middle

theorem find?_eq_none_iff {t : Table} {id : Int} :
    t.find? id = none ↔ ∀ row ∈ t.rows, row.1 ≠ id := by simp [find?]

def put (t : Table) (id : Int) (embedding : Embedding) : Table :=
  { t with blocks := putRow (id, embedding) t.blocks }

@[simp] theorem dimension_put (t : Table) (id : Int) (embedding : Embedding) :
    (t.put id embedding).dimension = t.dimension := rfl

theorem rows_put (t : Table) (id : Int) (embedding : Embedding) :
    (t.put id embedding).rows.Perm ((id, embedding) :: t.rows) :=
  rows_putRow (id, embedding) t.blocks

/-- An embedding is taken if it is not empty, fits the table and is the first of its id. -/
theorem insert_eq_ok_iff {t u : Table} {id : Int} {embedding : Embedding} :
    t.insert id embedding = .ok u ↔
      embedding ≠ [] ∧ embedding.length = t.dimension ∧ t.find? id = none ∧
        u = t.put id embedding := by
  unfold insert
  split_ifs with hempty hlength hfound
  · simp_all
  · simp_all
  · simp_all [Option.isSome_iff_ne_none]
  · have hnew : t.find? id = none := by simpa using hfound
    simp_all [put, eq_comm (a := u)]

theorem find?_eq_some_iff {t : Table} (honce : (t.rows.map (·.1)).Nodup) {id : Int}
    {embedding : Embedding} : t.find? id = some embedding ↔ (id, embedding) ∈ t.rows := by
  rw [find?, Option.map_eq_some_iff]
  constructor
  · rintro ⟨row, hrow, rfl⟩
    obtain rfl : row.1 = id := by simpa using List.find?_some hrow
    exact List.mem_of_find?_eq_some hrow
  · intro hmem
    obtain ⟨row, hrow⟩ : ∃ row, t.rows.find? (·.1 == id) = some row := by
      rw [← Option.isSome_iff_exists, List.find?_isSome]
      exact ⟨_, hmem, beq_self_eq_true id⟩
    have hid : row.1 = id := by simpa using List.find?_some hrow
    refine ⟨row, hrow, ?_⟩
    rw [List.inj_on_of_nodup_map honce (List.mem_of_find?_eq_some hrow) hmem hid]

/-- Erasing an id forgets its embedding and no other. -/
theorem find?_erase (t : Table) (id other : Int) :
    (t.erase id).find? other = if other = id then none else t.find? other := by
  rw [find?, rows_erase, find?_filter_ne]
  split_ifs <;> rfl

/-- Erasing an id without an embedding leaves the table as it is, down to the slots. -/
theorem erase_of_find?_eq_none {t : Table} {id : Int} (h : t.find? id = none) : t.erase id = t := by
  have hblocks : t.blocks.map (Block.clear id) = t.blocks := by
    refine (List.map_congr_left fun block hblock => ?_).trans (List.map_id t.blocks)
    refine Block.clear_of_forall_ne fun row hrow => find?_eq_none_iff.mp h row ?_
    exact List.mem_flatMap.mpr ⟨block, List.mem_reverse.mpr hblock, hrow⟩
  rw [erase, hblocks]

/-- A new embedding is the first one of its id. -/
theorem nodup_put {t : Table} (honce : (t.rows.map (·.1)).Nodup) {id : Int}
    (hnew : t.find? id = none) (embedding : Embedding) :
    ((t.put id embedding).rows.map (·.1)).Nodup := by
  have hperm := rows_put t id embedding
  refine (hperm.map _).nodup_iff.mpr (List.nodup_cons.mpr ⟨fun hmem => ?_, honce⟩)
  obtain ⟨row, hrow, hid⟩ := List.mem_map.mp hmem
  exact find?_eq_none_iff.mp hnew row hrow hid

/-- A new embedding is found under its id. -/
theorem find?_put {t : Table} (honce : (t.rows.map (·.1)).Nodup) {id : Int}
    (hnew : t.find? id = none) (embedding : Embedding) (other : Int) :
    (t.put id embedding).find? other = if other = id then some embedding else t.find? other := by
  have hperm := rows_put t id embedding
  have hnone := find?_eq_none_iff.mp hnew
  ext vector
  rw [find?_eq_some_iff (nodup_put honce hnew embedding), hperm.mem_iff, List.mem_cons, Prod.mk.injEq]
  split_ifs with hid
  · have hnot : (other, vector) ∉ t.rows := fun hmem => hnone _ hmem hid
    simp [hid, hid ▸ hnot, eq_comm]
  · rw [find?_eq_some_iff honce]
    simp [hid]

end Table

end Findings.Vector
