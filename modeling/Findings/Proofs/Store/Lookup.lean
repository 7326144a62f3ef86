import Findings.Proofs.Fusion.Ranking
import Findings.Proofs.Store.Ids
import Findings.Proofs.Store.ReadBack

/-!
# Looking up findings

One lookup reads the findings of many ids together. What it gives is described by what each id has
on its own, `findingOf`: the lookup gives that for every id that it names, each finding once,
whatever is repeated or missing among the ids. Only the number of ids is limited, which asking for
one id after another is not.
-/
namespace Findings.Store

open Findings.Record
open Tables

/-- The finding of an id as it is stored, if there is one. -/
def findingOf (s : Store) (id : Int) : Option Finding :=
  (s.findings.bind (·.find? (·.id == id))).bind Row.finding?

/-- Asks for the findings of ids one after another, and passes over ids that have none. -/
def getEach (handle : Handle) (ids : List Int) : Action (List Finding) := do
  let found ← ids.mapM (get? handle)
  return found.reduceOption

lemma id_of_findingOf {s : Store} {id : Int} {f : Finding} (h : findingOf s id = some f) :
    f.id = id := by
  obtain ⟨row, hrow, hf⟩ := Option.bind_eq_some_iff.mp h
  obtain ⟨rows, -, hfound⟩ := Option.bind_eq_some_iff.mp hrow
  have hid : row.id = id := by simpa using List.find?_some hfound
  rw [id_of_finding? hf, hid]

/-- The findings of some ids have the ids that have one. -/
lemma map_id_findingOf (s : Store) (ids : List Int) :
    (ids.filterMap (findingOf s)).map (·.id) = ids.filter fun id => (findingOf s id).isSome := by
  rw [List.map_filterMap, ← List.filterMap_eq_filter]
  refine List.filterMap_congr fun id _ => ?_
  cases hf : findingOf s id with
  | none => simp [Option.guard, hf]
  | some f => simp [Option.guard, hf, id_of_findingOf hf]

/-- Steps that each give a value and read only give all of their values. -/
lemma mapM_apply {α β : Type} {step : α → Action β} {value : α → β} {s : Store}
    (hstep : ∀ a, step a s = (.ok (value a), s)) (items : List α) :
    items.mapM step s = (.ok (items.map value), s) := by
  induction items with
  | nil => rfl
  | cons item items ih =>
    rw [List.mapM_cons, bind_apply, hstep]
    simp only [bind_apply, ih]
    rfl

/-- What the rows of some ids are read as. -/
def Tables.findingsOf (t : Tables) (ids : List Int) : List Finding :=
  (t.rowsOf ids).filterMap Row.finding?

namespace Coherent

variable {t : Tables}

lemma findingOf_eq_some_iff (h : Coherent t) {id : Int} {f : Finding} :
    findingOf t.store id = some f ↔ ∃ row ∈ t.findings, row.id = id ∧ row.finding? = some f := by
  have hstored : findingOf t.store id = (t.findings.find? (·.id == id)).bind Row.finding? := rfl
  rw [hstored, Option.bind_eq_some_iff]
  constructor
  · rintro ⟨row, hrow, hf⟩
    exact ⟨row, List.mem_of_find?_eq_some hrow, by simpa using List.find?_some hrow, hf⟩
  · rintro ⟨row, hrow, rfl, hf⟩
    exact ⟨row, h.find?_row hrow, hf⟩

/-- Every finding can be read, so an id has one exactly if it has a row. -/
lemma isSome_findingOf (h : Coherent t) {id : Int} :
    (findingOf t.store id).isSome = true ↔ IsLive t.store id := by
  rw [Option.isSome_iff_exists, isLive_store]
  constructor
  · rintro ⟨f, hf⟩
    obtain ⟨row, hrow, hid, -⟩ := h.findingOf_eq_some_iff.mp hf
    exact ⟨row, hrow, hid⟩
  · rintro ⟨row, hrow, hid⟩
    obtain ⟨f, hf⟩ := Option.isSome_iff_exists.mp (h.isSome_finding? hrow)
    exact ⟨f, h.findingOf_eq_some_iff.mpr ⟨row, hrow, hid, hf⟩⟩

theorem get?_eq (h : Coherent t) (handle : Handle) (id : Int) :
    get? handle id t.store = (.ok (findingOf t.store id), t.store) := by
  cases hfound : t.findings.find? (·.id == id) with
  | none =>
    have hnone : findingOf t.store id = none := by simp [findingOf, Tables.store, hfound]
    simp [get?, require_findings, hfound, hnone]
  | some row =>
    have hrow := List.mem_of_find?_eq_some hfound
    obtain ⟨f, hf⟩ := Option.isSome_iff_exists.mp (h.isSome_finding? hrow)
    obtain rfl : row.id = id := by simpa using List.find?_some hfound
    rw [get?_store h hrow hf, h.findingOf_eq_some_iff.mpr ⟨row, hrow, rfl, hf⟩]

theorem getEach_eq (h : Coherent t) (handle : Handle) (ids : List Int) :
    getEach handle ids t.store = (.ok (ids.filterMap (findingOf t.store)), t.store) := by
  have hall := mapM_apply (h.get?_eq handle) ids
  have hlive : (ids.map (findingOf t.store)).reduceOption = ids.filterMap (findingOf t.store) :=
    List.filterMap_map ..
  simp only [getEach, bind_apply, hall, pure_apply, hlive]

lemma mem_findingsOf (h : Coherent t) {ids : List Int} {f : Finding} :
    f ∈ t.findingsOf ids ↔ f.id ∈ ids ∧ findingOf t.store f.id = some f := by
  simp only [findingsOf, List.mem_filterMap, rowsOf, List.mem_filter, List.contains_iff_mem,
    h.findingOf_eq_some_iff]
  constructor
  · rintro ⟨row, ⟨hrow, hid⟩, hf⟩
    rw [id_of_finding? hf]
    exact ⟨hid, row, hrow, rfl, hf⟩
  · rintro ⟨hid, row, hrow, hrowId, hf⟩
    exact ⟨row, ⟨hrow, hrowId ▸ hid⟩, hf⟩

/-- The findings of some ids are told apart by their ids, as their rows are. -/
lemma nodup_findingsOf (h : Coherent t) (ids : List Int) : (t.findingsOf ids).Nodup := by
  have hrows : (t.rowsOf ids).Pairwise fun a b => a.id < b.id := h.rising.filter _
  refine List.Pairwise.filterMap Row.finding? ?_ hrows
  rintro a b hlt f hf g hg rfl
  have hid := (id_of_finding? hf).symm.trans (id_of_finding? hg)
  omega

/-- Of the rows of some ids, the one of an id among them is read as the finding of that id. -/
lemma find?_findingsOf (h : Coherent t) {ids : List Int} {id : Int} (hid : id ∈ ids) :
    (t.findingsOf ids).find? (·.id == id) = findingOf t.store id := by
  cases hfound : (t.findingsOf ids).find? (·.id == id) with
  | none =>
    symm
    rw [Option.eq_none_iff_forall_ne_some]
    intro f hf
    have hmem : f ∈ t.findingsOf ids := by
      rw [h.mem_findingsOf, id_of_findingOf hf]
      exact ⟨hid, hf⟩
    simpa [id_of_findingOf hf] using List.find?_eq_none.mp hfound f hmem
  | some f =>
    obtain ⟨-, hf⟩ := h.mem_findingsOf.mp (List.mem_of_find?_eq_some hfound)
    have hsame : f.id = id := by simpa using List.find?_some hfound
    rw [← hsame, hf]

theorem getMany_eq (h : Coherent t) (handle : Handle) (ids : List Int) :
    getMany handle ids t.store =
      if maxIds < ids.length then (.error (.table .tooManyIds), t.store)
      else (.ok (t.findingsOf ids), t.store) := by
  have hread : ∀ row ∈ t.rowsOf ids, row.finding?.isSome :=
    fun row hrow => h.isSome_finding? (List.mem_of_mem_filter hrow)
  rw [getMany, bind_apply, ensureSchema_store]
  simp only [lookUp_store, readRows_apply, if_pos hread]
  by_cases hempty : ids = []
  · simp [hempty, findingsOf, rowsOf]
  · rw [if_neg hempty]
    rfl

end Coherent

/-- What one lookup gives agrees with what asking for each id gives. -/
structure LooksUp (handle : Handle) (s : Store) (ids : List Int) (each : List Finding) : Prop where
  /-- Asking for each of the distinct ids always succeeds. -/
  asked : getEach handle ids.eraseDups s = (.ok each, s)
  /-- It gives the findings of the ids that have one, no finding twice. -/
  live : ∀ id, id ∈ each.map (·.id) ↔ id ∈ ids ∧ IsLive s id
  once : (each.map (·.id)).Nodup
  /-- One lookup gives the same findings if the ids are not too many, counting repeated ones. -/
  found : ids.length ≤ maxIds → ∃ found, getMany handle ids s = (.ok found, s) ∧ found.Perm each
  refused : maxIds < ids.length → getMany handle ids s = (.error (.table .tooManyIds), s)

/-- In every reachable store with a schema, a lookup of any ids that are not too many gives what
asking for each of them gives. -/
theorem lookup_gives_each_once {s : Store} (hs : Reachable s) (hschema : s.hasSchema = true)
    (handle : Handle) (ids : List Int) : ∃ each, LooksUp handle s ids each := by
  obtain rfl | ⟨dimension, t, rfl, ht, -⟩ := reachable_cases hs
  · exact absurd hschema Bool.false_ne_true
  have hlive := map_id_findingOf t.store ids.eraseDups
  have honce : ((ids.eraseDups.filterMap (findingOf t.store)).map (·.id)).Nodup := by
    rw [hlive]
    exact (nodup_eraseDups ids).filter _
  refine ⟨ids.eraseDups.filterMap (findingOf t.store), ?_⟩
  constructor
  case asked => exact ht.getEach_eq handle ids.eraseDups
  case live =>
    intro id
    rw [hlive, List.mem_filter, List.mem_eraseDups, ht.isSome_findingOf]
  case once => exact honce
  case found =>
    intro hfew
    refine ⟨t.findingsOf ids, ?_, ?_⟩
    · rw [ht.getMany_eq, if_neg (Nat.not_lt.mpr hfew)]
    · apply (List.perm_ext_iff_of_nodup (ht.nodup_findingsOf ids) (.of_map _ honce)).mpr
      intro f
      rw [ht.mem_findingsOf, List.mem_filterMap]
      constructor
      · rintro ⟨hid, hf⟩
        exact ⟨f.id, List.mem_eraseDups.mpr hid, hf⟩
      · rintro ⟨id, hid, hf⟩
        rw [id_of_findingOf hf]
        exact ⟨List.mem_eraseDups.mp hid, hf⟩
  case refused =>
    intro hmany
    rw [ht.getMany_eq, if_pos hmany]

/-- Of three ids, one of them twice, two have a finding. -/
theorem lookup_gives_each_once_repeated :
    let opened : Handle := ⟨"findings.db", 1⟩
    let finding (content : String) : NewFinding :=
      { session := "s", kind := .praise, content, severity := .low }
    let s := run [.applySchema opened, .insert opened (finding "a") none,
      .insert opened (finding "b") (some [Number.Binary.zero])] {}
    Reachable s ∧ s.hasSchema = true ∧ ∃ each, LooksUp opened s [2, 9, 1, 2] each ∧
      each = [{ finding "b" with id := 2 }, { finding "a" with id := 1 }] := by
  intro opened finding s
  have hs : Reachable s := ⟨_, rfl⟩
  have hschema : s.hasSchema = true := by decide +kernel
  obtain ⟨each, hlooks⟩ := lookup_gives_each_once hs hschema opened [2, 9, 1, 2]
  refine ⟨hs, hschema, each, hlooks, ?_⟩
  have hasked : (getEach opened ([2, 9, 1, 2] : List Int).eraseDups s).1 =
      .ok [{ finding "b" with id := 2 }, { finding "a" with id := 1 }] := by decide +kernel
  rw [hlooks.asked] at hasked
  exact Except.ok.inj hasked

/-- One id that has a finding is asked for, but a lookup that names it once more than one lookup
takes is refused. -/
theorem lookup_refuses_many :
    ∃ (s : Store) (f : Finding), Reachable s ∧ s.hasSchema = true ∧
      (get? ⟨"findings.db", 1⟩ 1 s).1 = .ok (some f) ∧
      getMany ⟨"findings.db", 1⟩ (List.replicate 32767 1) s = (.error (.table .tooManyIds), s) := by
  let finding : NewFinding := { session := "s1", kind := .praise, content := "a", severity := .low }
  let s := run [.applySchema ⟨"findings.db", 1⟩, .insert ⟨"findings.db", 1⟩ finding none] {}
  have hs : Reachable s := ⟨_, rfl⟩
  have hschema : s.hasSchema = true := by decide +kernel
  have hmany : maxIds < (List.replicate 32767 (1 : Int)).length := by
    rw [List.length_replicate]
    decide
  refine ⟨s, { finding with id := 1 }, hs, hschema, by decide +kernel, ?_⟩
  obtain hempty | ⟨dimension, t, ht, hcoherent, -⟩ := reachable_cases hs
  · rw [hempty] at hschema
    exact absurd hschema Bool.false_ne_true
  · rw [ht, hcoherent.getMany_eq, if_pos hmany]

end Findings.Store
