import Findings.Fusion
import Mathlib.Data.List.Induction
import Mathlib.Data.List.Nodup
import Mathlib.Tactic.Common

/-!
# The ranking that fusion makes

Two loops note the ids of both lists in one growing list of entries. The invariant of either loop
is that the entries are the distinct ids met so far, in order of first appearance, each with its
first place in either list; the second loop runs on top of the first. Sorting is stable, so
entries with one score keep that order.

`IsFusion` says what a fused list is without saying how it is made, and only one list meets it.
-/
namespace Findings

open Findings.Number

/-- The first place of an id in a list, counted from one. -/
def placeIn (ids : List Int) (id : Int) : Option Nat := (ids.idxOf? id).map (· + 1)

@[simp] theorem placeIn_nil (id : Int) : placeIn [] id = none := rfl

@[simp] theorem placeIn_eq_none_iff {ids : List Int} {id : Int} :
    placeIn ids id = none ↔ id ∉ ids := by simp [placeIn]

theorem isSome_placeIn {ids : List Int} {id : Int} :
    (placeIn ids id).isSome = true ↔ id ∈ ids := by
  rw [Option.isSome_iff_ne_none, ne_eq, placeIn_eq_none_iff, not_not]

/-- A place leads to its id, and no earlier place does. -/
theorem placeIn_eq_some_iff {ids : List Int} {id : Int} {place : Nat} :
    placeIn ids id = some place ↔
      1 ≤ place ∧ ids[place - 1]? = some id ∧ ∀ earlier < place - 1, ids[earlier]? ≠ some id := by
  simp only [placeIn, Option.map_eq_some_iff, List.idxOf?_eq_some_iff]
  constructor
  · rintro ⟨index, ⟨hlt, hid, hfirst⟩, rfl⟩
    refine ⟨by omega, by simp [List.getElem?_eq_getElem hlt, hid], fun earlier hlt' => ?_⟩
    have hbound : earlier < ids.length := by omega
    simpa [List.getElem?_eq_getElem hbound] using hfirst earlier (by omega)
  · rintro ⟨hpos, hid, hfirst⟩
    obtain ⟨hlt, hget⟩ := List.getElem?_eq_some_iff.mp hid
    refine ⟨place - 1, ⟨hlt, hget, fun earlier hlt' => ?_⟩, by omega⟩
    have hbound : earlier < ids.length := by omega
    simpa [List.getElem?_eq_getElem hbound] using hfirst earlier hlt'

/-- An id at the end of a list has its place there unless it has an earlier one. -/
theorem placeIn_concat (ids : List Int) (last id : Int) :
    placeIn (ids ++ [last]) id =
      (placeIn ids id).or (if last = id then some (ids.length + 1) else none) := by
  induction ids with
  | nil => by_cases h : last = id <;> simp [placeIn, List.idxOf?_cons, h]
  | cons first rest ih =>
    simp only [placeIn, List.cons_append, List.idxOf?_cons, List.length_cons] at *
    by_cases h : first = id
    · simp [h]
    · have hstep := congrArg (Option.map (· + 1)) ih
      rw [Option.map_or] at hstep
      simp only [beq_iff_eq, h, if_false, hstep]
      by_cases hl : last = id <;> simp [hl]

/-- What a fused list of two ranked lists is: an entry for each id of either list with its first
places and its score, in falling order of scores, and entries with one score in the order in
which their ids first appear. -/
structure IsFusion (config : FusionConfig) (vector lexical : List Int) (result : List Fused) :
    Prop where
  nodup : (result.map (·.id)).Nodup
  mem_iff : ∀ id, id ∈ result.map (·.id) ↔ id ∈ vector ∨ id ∈ lexical
  vectorRank : ∀ entry ∈ result, entry.vectorRank = placeIn vector entry.id
  lexicalRank : ∀ entry ∈ result, entry.lexicalRank = placeIn lexical entry.id
  score : ∀ entry ∈ result, entry.score =
    (config.contribution config.vectorWeight entry.vectorRank).add
      (config.contribution config.lexicalWeight entry.lexicalRank)
  falling : result.Pairwise fun a b => b.score.totalLE a.score = true
  ties : result.Pairwise fun a b =>
    a.score = b.score → (vector ++ lexical).idxOf a.id < (vector ++ lexical).idxOf b.id

namespace Ranked

/-- An entry whose place in one list may still be noted. -/
def withPlace (leg : Leg) (place : Option Nat) (r : Ranked) : Ranked :=
  match leg with
  | .vector => { r with vectorRank := r.vectorRank.or place }
  | .lexical => { r with lexicalRank := r.lexicalRank.or place }

@[simp] theorem withPlace_id (leg : Leg) (place : Option Nat) (r : Ranked) :
    (r.withPlace leg place).id = r.id := by cases leg <;> rfl

@[simp] theorem withPlace_none (leg : Leg) (r : Ranked) : r.withPlace leg none = r := by
  cases leg <;> simp [withPlace]

/-- Of two places the one that is noted first stays. -/
theorem withPlace_withPlace (leg : Leg) (first second : Option Nat) (r : Ranked) :
    (r.withPlace leg first).withPlace leg second = r.withPlace leg (first.or second) := by
  cases leg <;> simp [withPlace, Option.or_assoc]

theorem meet_eq_withPlace (leg : Leg) (rank : Nat) (r : Ranked) :
    r.meet leg rank = r.withPlace leg (some rank) := by cases leg <;> rfl

theorem first_eq_withPlace (leg : Leg) (id : Int) (rank : Nat) :
    first leg id rank = (⟨id, none, none⟩ : Ranked).withPlace leg (some rank) := by
  cases leg <;> rfl

end Ranked

/-- Noting an id that has an entry changes this entry alone. -/
lemma noteId_map_of_mem (leg : Leg) (id : Int) (rank : Nat) (entry : Int → Ranked)
    (hid : ∀ i, (entry i).id = i) {ids : List Int} (hnodup : ids.Nodup) (hmem : id ∈ ids) :
    noteId leg id rank (ids.map entry) =
      ids.map fun i => if id = i then (entry i).meet leg rank else entry i := by
  induction ids with
  | nil => simp at hmem
  | cons i ids ih =>
    obtain ⟨hfresh, hnodup⟩ := List.nodup_cons.mp hnodup
    by_cases h : i = id
    · subst h
      have hrest : ∀ j ∈ ids, (if i = j then (entry j).meet leg rank else entry j) = entry j := by
        intro j hj
        have hne : i ≠ j := by rintro rfl; exact hfresh hj
        rw [if_neg hne]
      simp [noteId, hid, List.map_congr_left hrest]
    · have hmem : id ∈ ids := (List.mem_cons.mp hmem).resolve_left (Ne.symm h)
      simp [noteId, hid, h, Ne.symm h, ih hnodup hmem]

/-- Noting an id without an entry adds one at the end. -/
lemma noteId_map_of_not_mem (leg : Leg) (id : Int) (rank : Nat) (entry : Int → Ranked)
    (hid : ∀ i, (entry i).id = i) {ids : List Int} (hmem : id ∉ ids) :
    noteId leg id rank (ids.map entry) = ids.map entry ++ [.first leg id rank] := by
  induction ids with
  | nil => rfl
  | cons i ids ih =>
    obtain ⟨hne, hmem⟩ := not_or.mp (List.mem_cons.not.mp hmem)
    simp [noteId, hid, Ne.symm hne, ih hmem]

lemma noteAll_concat (leg : Leg) (rank : Nat) (ids : List Int) (last : Int)
    (ranked : List Ranked) :
    noteAll leg rank (ids ++ [last]) ranked =
      noteId leg last (rank + ids.length) (noteAll leg rank ids ranked) := by
  induction ids generalizing rank ranked with
  | nil => rfl
  | cons id ids ih =>
    have harith : rank + 1 + ids.length = rank + (ids.length + 1) := by omega
    simp only [List.cons_append, noteAll, ih, List.length_cons, harith]

lemma nodup_eraseDups (ids : List Int) : ids.eraseDups.Nodup := by
  cases ids with
  | nil => simp
  | cons id ids =>
    rw [List.eraseDups_cons, List.nodup_cons]
    exact ⟨by simp, nodup_eraseDups _⟩
termination_by ids.length
decreasing_by
  have hlen := List.length_filter_le (fun i => !i == id) ids
  simp only [List.length_cons]
  omega

lemma eraseDups_concat (ids : List Int) (last : Int) :
    (ids ++ [last]).eraseDups = ids.eraseDups ++ if last ∈ ids then [] else [last] := by
  rw [List.eraseDups_append]
  by_cases h : last ∈ ids <;> simp [List.removeAll, List.eraseDups_cons, h]

/-- The loop over one list. The entries before it are those of the distinct ids in `seen`; the
induction takes ids away from the end, as the loop has noted the earlier ones by then. -/
lemma noteAll_map (leg : Leg) (seen ids : List Int) (entry : Int → Ranked)
    (hid : ∀ i, (entry i).id = i) (hblank : ∀ i, i ∉ seen → entry i = ⟨i, none, none⟩) :
    noteAll leg 1 ids (seen.eraseDups.map entry) =
      (seen ++ ids).eraseDups.map fun i => (entry i).withPlace leg (placeIn ids i) := by
  induction ids using List.reverseRecOn with
  | nil => simp [noteAll]
  | append_singleton ids last ih =>
    have hid' : ∀ i, ((entry i).withPlace leg (placeIn ids i)).id = i := by simp [hid]
    have hplace : ∀ i, (entry i).withPlace leg (placeIn (ids ++ [last]) i) =
        if last = i then ((entry i).withPlace leg (placeIn ids i)).meet leg (ids.length + 1)
        else (entry i).withPlace leg (placeIn ids i) := by
      intro i
      rw [placeIn_concat, ← Ranked.withPlace_withPlace]
      split <;> simp [Ranked.meet_eq_withPlace]
    rw [noteAll_concat, ih, Nat.add_comm 1, ← List.append_assoc, eraseDups_concat]
    simp only [hplace]
    by_cases hmem : last ∈ seen ++ ids
    · rw [noteId_map_of_mem _ _ _ _ hid' (nodup_eraseDups _) (List.mem_eraseDups.mpr hmem)]
      simp [hmem]
    · rw [noteId_map_of_not_mem _ _ _ _ hid' (by simpa using hmem)]
      have hne : ∀ i ∈ (seen ++ ids).eraseDups, last ≠ i := by
        rintro i hi rfl
        exact hmem (List.mem_eraseDups.mp hi)
      obtain ⟨hseen, hids⟩ := not_or.mp (List.mem_append.not.mp hmem)
      rw [if_neg hmem, List.map_append, List.map_congr_left fun i hi => if_neg (hne i hi)]
      simp [Ranked.first_eq_withPlace, Ranked.meet_eq_withPlace, hblank _ hseen,
        placeIn_eq_none_iff.mpr hids]

/-- Both loops together: the distinct ids in order of first appearance with their places. -/
theorem rank_eq_map (vector lexical : List Int) :
    rank vector lexical =
      (vector ++ lexical).eraseDups.map fun id =>
        ⟨id, placeIn vector id, placeIn lexical id⟩ := by
  have hvector := noteAll_map .vector [] vector (fun id => ⟨id, none, none⟩)
    (fun _ => rfl) (fun _ _ => rfl)
  simp only [List.eraseDups_nil, List.map_nil, List.nil_append, Ranked.withPlace,
    Option.none_or] at hvector
  rw [rank, hvector, noteAll_map .lexical vector lexical _ (fun _ => rfl)]
  · simp [Ranked.withPlace]
  · intro id hid
    rw [placeIn_eq_none_iff.mpr hid]

/-- Sorting is stable: elements that are all below one another keep their order. -/
theorem filter_mergeSort {α : Type} {le : α → α → Bool} (chosen : α → Bool)
    (trans : ∀ a b c, le a b = true → le b c = true → le a c = true)
    (total : ∀ a b, (le a b || le b a) = true)
    (tied : ∀ a b, chosen a = true → chosen b = true → le a b = true) (l : List α) :
    (l.mergeSort le).filter chosen = l.filter chosen := by
  have hpair : (l.filter chosen).Pairwise fun a b => le a b = true :=
    List.pairwise_of_forall_mem_list fun a ha b hb =>
      tied a b (List.mem_filter.mp ha).2 (List.mem_filter.mp hb).2
  have hsub := List.sublist_mergeSort trans total hpair List.filter_sublist
  have hsub := hsub.filter chosen
  simp only [List.filter_filter, Bool.and_self] at hsub
  have hperm := (List.mergeSort_perm l le).filter chosen
  exact (hsub.eq_of_length hperm.length_eq.symm).symm

/-- Entries that are not yet sorted stand in order of first appearance. -/
lemma pairwise_idxOf_eraseDups (ids : List Int) :
    ids.eraseDups.Pairwise fun a b => ids.idxOf a < ids.idxOf b := by
  induction ids using List.reverseRecOn with
  | nil => simp
  | append_singleton ids last ih =>
    have hidx : ∀ id ∈ ids.eraseDups, (ids ++ [last]).idxOf id = ids.idxOf id := by
      intro id hid
      rw [List.idxOf_append, if_pos (List.mem_eraseDups.mp hid)]
    have hold : ids.eraseDups.Pairwise fun a b =>
        (ids ++ [last]).idxOf a < (ids ++ [last]).idxOf b :=
      ih.imp_of_mem fun {a b} ha hb hab => by rwa [hidx a ha, hidx b hb]
    rw [eraseDups_concat]
    by_cases h : last ∈ ids
    · simpa only [if_pos h, List.append_nil] using hold
    · rw [if_neg h, List.pairwise_append]
      refine ⟨hold, by simp, fun a ha b hb => ?_⟩
      obtain rfl := List.mem_singleton.mp hb
      have hlt := List.idxOf_lt_length_of_mem (List.mem_eraseDups.mp ha)
      rw [hidx a ha, List.idxOf_append, if_neg h]
      omega

/-- The entries in order of first appearance, before they are sorted. -/
def unsorted (config : FusionConfig) (vector lexical : List Int) : List Fused :=
  (rank vector lexical).map (·.fused config)

lemma unsorted_map_id (config : FusionConfig) (vector lexical : List Int) :
    (unsorted config vector lexical).map (·.id) = (vector ++ lexical).eraseDups := by
  simp [unsorted, rank_eq_map, Ranked.fused, Function.comp_def]

lemma unsorted_pairwise (config : FusionConfig) (vector lexical : List Int) :
    (unsorted config vector lexical).Pairwise fun a b =>
      (vector ++ lexical).idxOf a.id < (vector ++ lexical).idxOf b.id := by
  have h := pairwise_idxOf_eraseDups (vector ++ lexical)
  rwa [← unsorted_map_id config, List.pairwise_map] at h

lemma fuseRanks_perm (config : FusionConfig) (vector lexical : List Int) :
    (fuseRanks config vector lexical).Perm (unsorted config vector lexical) :=
  List.mergeSort_perm _ _

lemma falling_trans (a b c : Fused) (hab : b.score.totalLE a.score = true)
    (hbc : c.score.totalLE b.score = true) : c.score.totalLE a.score = true := by
  rw [Binary.totalLE_iff] at *
  omega

lemma falling_total (a b : Fused) :
    (b.score.totalLE a.score || a.score.totalLE b.score) = true := by
  simp only [Bool.or_eq_true, Binary.totalLE_iff]
  omega

/-- Entries with one score keep their order when all are sorted. -/
lemma fuseRanks_ties (config : FusionConfig) (vector lexical : List Int) :
    (fuseRanks config vector lexical).Pairwise fun a b =>
      a.score = b.score → (vector ++ lexical).idxOf a.id < (vector ++ lexical).idxOf b.id := by
  rw [List.pairwise_iff_forall_sublist]
  intro a b hsub hscore
  have hstable : (fuseRanks config vector lexical).filter (fun e => e.score = b.score) =
      (unsorted config vector lexical).filter (fun e => e.score = b.score) := by
    refine filter_mergeSort _ falling_trans falling_total (fun x y hx hy => ?_) _
    have hsame : x.score = y.score := (of_decide_eq_true hx).trans (of_decide_eq_true hy).symm
    exact Binary.totalLE_iff.mpr (Int.le_of_eq (congrArg Binary.orderKey hsame.symm))
  have hpair := hsub.filter fun e => e.score = b.score
  rw [hstable] at hpair
  have hpair := hpair.trans List.filter_sublist
  simp only [hscore, decide_true, List.filter_cons_of_pos, List.filter_nil] at hpair
  exact List.pairwise_iff_forall_sublist.mp (unsorted_pairwise config vector lexical) hpair

/-- The ids that are fused are the distinct ids of both lists. -/
lemma fuseRanks_ids (config : FusionConfig) (vector lexical : List Int) :
    ((fuseRanks config vector lexical).map (·.id)).Perm (vector ++ lexical).eraseDups := by
  rw [← unsorted_map_id config]
  exact (fuseRanks_perm config vector lexical).map _

theorem length_fuseRanks (config : FusionConfig) (vector lexical : List Int) :
    (fuseRanks config vector lexical).length = (vector ++ lexical).eraseDups.length := by
  rw [← (fuseRanks_ids config vector lexical).length_eq, List.length_map]

theorem isFusion_fuseRanks (config : FusionConfig) (vector lexical : List Int) :
    IsFusion config vector lexical (fuseRanks config vector lexical) := by
  have hperm := fuseRanks_perm config vector lexical
  have hids := fuseRanks_ids config vector lexical
  have hentry : ∀ entry ∈ fuseRanks config vector lexical, ∃ id, entry =
      (⟨id, placeIn vector id, placeIn lexical id⟩ : Ranked).fused config := by
    intro entry hentry
    have hentry := hperm.mem_iff.mp hentry
    simp only [unsorted, rank_eq_map, List.map_map, List.mem_map] at hentry
    obtain ⟨id, _, rfl⟩ := hentry
    exact ⟨id, rfl⟩
  refine ⟨hids.nodup_iff.mpr (nodup_eraseDups _), fun id => ?_, fun entry h => ?_,
    fun entry h => ?_, fun entry h => ?_, ?_, fuseRanks_ties config vector lexical⟩
  · rw [hids.mem_iff, List.mem_eraseDups, List.mem_append]
  · obtain ⟨id, rfl⟩ := hentry entry h
    rfl
  · obtain ⟨id, rfl⟩ := hentry entry h
    rfl
  · obtain ⟨id, rfl⟩ := hentry entry h
    rfl
  · exact List.pairwise_mergeSort falling_trans falling_total _

/-- Only one list is the fusion of two lists: entries are told by their ids, and an entry comes
before another by its score or, with one score, by where its id first appears. -/
theorem IsFusion.unique {config : FusionConfig} {vector lexical : List Int}
    {first second : List Fused} (h : IsFusion config vector lexical first)
    (h' : IsFusion config vector lexical second) : first = second := by
  have hentry : ∀ a ∈ first, ∀ b ∈ second, a.id = b.id → a = b := by
    intro a ha b hb hid
    have hvector := (h.vectorRank a ha).trans (hid ▸ (h'.vectorRank b hb).symm)
    have hlexical := (h.lexicalRank a ha).trans (hid ▸ (h'.lexicalRank b hb).symm)
    have hscore : a.score = b.score := by rw [h.score a ha, h'.score b hb, hvector, hlexical]
    rcases a with ⟨⟨_, _, _⟩, _⟩
    rcases b with ⟨⟨_, _, _⟩, _⟩
    simp_all
  have hmem : ∀ entry, entry ∈ first ↔ entry ∈ second := by
    intro entry
    constructor
    · intro ha
      have hid := (h'.mem_iff entry.id).mpr ((h.mem_iff entry.id).mp (List.mem_map_of_mem ha))
      obtain ⟨b, hb, hid⟩ := List.mem_map.mp hid
      rwa [hentry entry ha b hb hid.symm]
    · intro hb
      have hid := (h.mem_iff entry.id).mpr ((h'.mem_iff entry.id).mp (List.mem_map_of_mem hb))
      obtain ⟨a, ha, hid⟩ := List.mem_map.mp hid
      rwa [← hentry a ha entry hb hid]
  have hperm : first.Perm second :=
    (List.perm_ext_iff_of_nodup (.of_map _ h.nodup) (.of_map _ h'.nodup)).mpr hmem
  refine hperm.eq_of_pairwise (fun a b _ _ hab hba => ?_) (h.falling.and h.ties)
    (h'.falling.and h'.ties)
  have hscore := Binary.totalLE_antisymm hab.1 hba.1
  have hlt := hab.2 hscore.symm
  have hlt' := hba.2 hscore
  omega

/-- What is left out by a limit scores no higher than what is kept. -/
lemma fuse_keeps_best (config : FusionConfig) (vector lexical : List Int) (limit : Nat)
    {kept left : Fused} (hkept : kept ∈ fuse config vector lexical limit)
    (hleft : left ∈ (fuseRanks config vector lexical).drop limit) :
    left.score.totalLE kept.score = true := by
  have h := (isFusion_fuseRanks config vector lexical).falling
  rw [← List.take_append_drop limit (fuseRanks config vector lexical), List.pairwise_append] at h
  exact h.2.2 kept hkept left hleft

/-- The fused list of two ranked lists is the one that `IsFusion` describes, whatever the
parameters are and however often ids repeat. With a limit its first entries are given, and they
are the best. -/
theorem fusion_unique_and_fuse_best (config : FusionConfig) (vector lexical : List Int)
    (limit : Nat) :
    (∀ result, IsFusion config vector lexical result ↔ result = fuseRanks config vector lexical) ∧
      (∀ weight, config.contribution weight none = Binary.zero) ∧
      (∀ weight place, config.contribution weight (some place) =
        weight.div (config.constant.add (Binary.ofNat place))) ∧
      fuse config vector lexical limit = (fuseRanks config vector lexical).take limit ∧
      (fuse config vector lexical limit).length =
        min limit (fuseRanks config vector lexical).length ∧
      ∀ kept ∈ fuse config vector lexical limit,
        ∀ left ∈ (fuseRanks config vector lexical).drop limit,
          left.score.totalLE kept.score = true := by
  refine ⟨fun result => ⟨fun h => h.unique (isFusion_fuseRanks _ _ _), ?_⟩, fun _ => rfl,
    fun _ _ => rfl, rfl, List.length_take, fun kept hkept left hleft => ?_⟩
  · rintro rfl
    exact isFusion_fuseRanks config vector lexical
  · exact fuse_keeps_best config vector lexical limit hkept hleft

end Findings
