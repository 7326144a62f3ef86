import Findings.Proofs.Store.Writing

/-!
# Outcomes of writes

What is wrong with a request is found before anything is written. `refusal` names it, for any
store. On coherent tables of the dimension of the handle little else can fail: a finding that is to
get an embedding may be missing, and the ids may run out.
-/
namespace Findings.Store

open Findings.Record
open Tables

/-- What is wrong with a finding that is to be stored under a dimension. -/
def refusal (dimension : Nat) (f : NewFinding) (embedding : Option Embedding) : Option Error :=
  if Text.isBlankText f.session then some (.finding .blankSession)
  else if Text.isBlankText f.content then some (.finding .blankContent)
  else embedding.bind fun vector =>
    if vector.length ≠ dimension then some (.dimension dimension vector.length) else none

/-- What is wrong with a finding that is to be one of a session. -/
def refusalFor (dimension : Nat) (session : String) (item : NewFinding × Embedding) :
    Option Error :=
  if item.1.session ≠ session then some (.finding (.otherSession item.1.session session))
  else refusal dimension item.1 (some item.2)

/-- The step that fails if something is wrong and does nothing otherwise. -/
def verdict : Option Error → Action Unit
  | some e => throw e
  | none => pure ()

@[simp] lemma verdict_some (e : Error) (s : Store) : verdict (some e) s = (.error e, s) := rfl

@[simp] lemma verdict_none (s : Store) : verdict none s = (.ok (), s) := rfl

variable {handle : Handle}

lemma checkDimension_eq (embedding : Embedding) :
    checkDimension handle embedding =
      verdict (if embedding.length ≠ handle.dimension then
        some (.dimension handle.dimension embedding.length) else none) := by
  unfold checkDimension
  split_ifs <;> rfl

lemma validate_eq (f : NewFinding) (embedding : Option Embedding) :
    validate handle f embedding = verdict (refusal handle.dimension f embedding) := by
  unfold validate refusal
  funext s
  by_cases hsession : Text.isBlankText f.session = true
  · simp [hsession]
  · by_cases hcontent : Text.isBlankText f.content = true
    · simp [hsession, hcontent]
    · cases embedding with
      | none => simp [hsession, hcontent]
      | some vector => simp [hsession, hcontent, checkDimension_eq]

lemma validateFor_eq (session : String) (item : NewFinding × Embedding) :
    validateFor handle session item = verdict (refusalFor handle.dimension session item) := by
  unfold validateFor refusalFor
  rw [validate_eq]
  funext s
  by_cases hsession : item.1.session = session <;> simp [hsession]

/-- The first item with something wrong decides. -/
lemma forM_validateFor_eq (session : String) (items : List (NewFinding × Embedding)) :
    items.forM (validateFor handle session) =
      verdict (items.findSome? (refusalFor handle.dimension session)) := by
  induction items with
  | nil => rfl
  | cons item items ih =>
    funext s
    change (validateFor handle session item >>= fun _ =>
      items.forM (validateFor handle session)) s = _
    rw [bind_apply, validateFor_eq, ih, List.findSome?_cons]
    cases refusalFor handle.dimension session item <;> rfl

/-- Nothing is replaced if something is wrong with one of the new findings. -/
theorem replaceSession_refused {session : String} {items : List (NewFinding × Embedding)}
    {e : Error} (h : items.findSome? (refusalFor handle.dimension session) = some e) (s : Store) :
    replaceSession handle session items s = (.error e, s) := by
  rw [replaceSession, forM_validateFor_eq, h, bind_apply, verdict_some]

/-- No embedding is given to a finding that does not exist. -/
theorem setEmbedding_missing {s : Store} {id : Int}
    (hmissing : ∀ rows ∈ s.findings, ∀ row ∈ rows, row.id ≠ id) (embedding : Embedding) :
    setEmbedding handle id embedding s =
      (.error (if embedding.length ≠ handle.dimension then
          .dimension handle.dimension embedding.length
        else if s.hasSchema then .finding (.missing id) else .schemaMissing handle.path), s) := by
  by_cases hlength : embedding.length = handle.dimension
  · by_cases hschema : s.hasSchema = true
    · cases hrows : s.findings with
      | none => simp [hasSchema, hrows] at hschema
      | some rows =>
        have hnone : ¬∃ row ∈ rows, row.id = id := by simpa using hmissing rows hrows
        simp [setEmbedding, checkDimension_eq, hlength, ensureSchema, hschema, transaction, hrows,
          hnone]
    · simp [setEmbedding, checkDimension_eq, hlength, ensureSchema, hschema]
  · simp [setEmbedding, checkDimension_eq, hlength]

/-- No tables are made for embeddings that would be too long. -/
theorem applySchema_refused {s : Store} (hmigrated : s.migrated = false)
    (hdimension : maxDimension < handle.dimension) :
    applySchema handle s = (.error (.table (.dimensionLimit handle.dimension)), s) := by
  simp [applySchema, hmigrated, hdimension]

/-- The ids that a number of new findings get after an id. -/
def idsAfter (last : Int) (count : Nat) : List Int :=
  (List.range count).map fun n : Nat => last + 1 + (n : Int)

lemma idsAfter_succ (last : Int) (count : Nat) :
    idsAfter last (count + 1) = (last + 1) :: idsAfter (last + 1) count := by
  rw [idsAfter, List.range_succ_eq_map, List.map_cons, List.map_map]
  refine List.cons_eq_cons.mpr ⟨by simp, List.map_congr_left fun n _ => ?_⟩
  simp only [Function.comp_apply]
  omega

variable {t : Tables}

/-- Adding a finding fails for want of an id only, once its embedding fits. -/
theorem addFinding_eq (h : Coherent t) (f : NewFinding) {embedding : Option Embedding}
    (hfits : ∀ vector ∈ embedding, t.Fits vector) :
    addFinding f embedding t.store =
      if maxId ≤ t.lastId then (.error (.table .full), (t.withSession f.session).store)
      else (.ok (t.lastId + 1), (t.added f embedding).store) := by
  simp only [addFinding, bind_apply, addSession_store, nextId_store, withSession_lastId]
  by_cases hfull : maxId ≤ t.lastId
  · simp only [if_pos hfull]
  · simp only [if_neg hfull, insertRow_withSession h f]
    cases embedding with
    | none => rfl
    | some vector =>
      obtain ⟨hfilled, hlength⟩ := hfits vector rfl
      have hnew : t.vectors.find? (t.lastId + 1) = none := h.find?_of_lastId_lt (by omega)
      have hput : t.vectors.insert (t.lastId + 1) vector =
          .ok (t.vectors.put (t.lastId + 1) vector) :=
        Vector.Table.insert_eq_ok_iff.mpr ⟨hfilled, hlength, hnew, rfl⟩
      simp [insertEmbedding_store, hput, Tables.added, Tables.withEmbedding]

/-- An embedding is stored last, so that one that does not fit comes too late for the finding. -/
theorem addFinding_unfit (h : Coherent t) (hlast : t.lastId < maxId) (f : NewFinding)
    {vector : Embedding} {fault : TableFault}
    (hfault : t.vectors.insert (t.lastId + 1) vector = .error fault) :
    addFinding f (some vector) t.store = (.error (.table fault), (t.withFinding f).store) := by
  simp only [addFinding, bind_apply, addSession_store, nextId_store, withSession_lastId,
    if_neg (Int.not_le.mpr hlast), insertRow_withSession h f, insertEmbedding_store,
    withFinding_vectors, hfault]

lemma lastId_added (t : Tables) (f : NewFinding) (embedding : Option Embedding) :
    (t.added f embedding).lastId = t.lastId + 1 := by
  have hfinding : (t.withFinding f).lastId = t.lastId + 1 := by
    simp only [withFinding, withRow, withSession_lastId, Row.ofNew]
    omega
  cases embedding <;> exact hfinding

/-- Findings are added one after another as long as there are ids. -/
theorem addAll_eq (h : Coherent t) {items : List (NewFinding × Embedding)}
    (hfits : ∀ item ∈ items, t.Fits item.2) :
    if maxId < t.lastId + items.length then
      ∃ u, items.mapM (fun item => addFinding item.1 (some item.2)) t.store =
        (.error (.table .full), u)
    else
      items.mapM (fun item => addFinding item.1 (some item.2)) t.store =
        (.ok (idsAfter t.lastId items.length), (t.addedAll items).store) := by
  induction items generalizing t with
  | nil =>
    have hrange := h.lastId_range
    rw [if_neg (by simpa using hrange.2)]
    rfl
  | cons item items ih =>
    have hitem : ∀ vector ∈ some item.2, t.Fits vector := by
      rintro vector ⟨⟩
      exact hfits item List.mem_cons_self
    have hadd := addFinding_eq h item.1 hitem
    rw [List.mapM_cons]
    -- the ids run out at this item, at a later one, or not at all
    by_cases hfull : maxId ≤ t.lastId
    · rw [if_pos (by simp only [List.length_cons]; omega)]
      rw [if_pos hfull] at hadd
      exact ⟨_, by rw [bind_apply, hadd]⟩
    · rw [if_neg hfull] at hadd
      have hrest := ih (h.added (by omega) item.1 hitem) fun other hother => by
        obtain ⟨hfilled, hlength⟩ := hfits other (List.mem_cons_of_mem _ hother)
        exact ⟨hfilled, hlength.trans (dimension_added _ _ _).symm⟩
      rw [lastId_added] at hrest
      simp only [bind_apply, hadd, List.length_cons]
      split at hrest
      case isTrue hshort =>
        rw [if_pos (by omega)]
        obtain ⟨u, hu⟩ := hrest
        exact ⟨u, by rw [hu]⟩
      case isFalse henough =>
        rw [if_neg (by omega), hrest, idsAfter_succ]
        rfl

/-- The tables have the dimension of the handle, and it is not zero. -/
structure Opened (handle : Handle) (t : Tables) : Prop where
  dimension : t.vectors.dimension = handle.dimension
  positive : 0 < handle.dimension

lemma Opened.fits (hopen : Opened handle t) {embedding : Embedding}
    (hlength : embedding.length = handle.dimension) : t.Fits embedding := by
  refine ⟨?_, hlength.trans hopen.dimension.symm⟩
  rintro rfl
  have := hopen.positive
  simp only [List.length_nil] at hlength
  omega

lemma length_of_refusal_eq_none {dimension : Nat} {f : NewFinding}
    {embedding : Option Embedding} (h : refusal dimension f embedding = none) :
    ∀ vector ∈ embedding, vector.length = dimension := by
  rintro vector ⟨⟩
  unfold refusal at h
  split_ifs at h
  simpa using h

lemma length_of_refusalFor_eq_none {dimension : Nat} {session : String}
    {item : NewFinding × Embedding} (h : refusalFor dimension session item = none) :
    item.2.length = dimension := by
  unfold refusalFor at h
  split_ifs at h
  exact length_of_refusal_eq_none h item.2 rfl

theorem insert_eq (h : Coherent t) (hopen : Opened handle t) (f : NewFinding)
    (embedding : Option Embedding) :
    insert handle f embedding t.store =
      match refusal handle.dimension f embedding with
      | some e => (.error e, t.store)
      | none =>
        if maxId ≤ t.lastId then (.error (.table .full), t.store)
        else (.ok (t.lastId + 1), (t.added f embedding).store) := by
  rw [insert, validate_eq]
  cases hrefusal : refusal handle.dimension f embedding with
  | some e => rfl
  | none =>
    have hadd := addFinding_eq h f fun vector hvector =>
      hopen.fits (length_of_refusal_eq_none hrefusal vector hvector)
    simp only [bind_apply, verdict_none, ensureSchema_store, transaction, hadd]
    split_ifs <;> rfl

theorem replaceSession_eq (h : Coherent t) (hopen : Opened handle t) (session : String)
    (items : List (NewFinding × Embedding)) :
    replaceSession handle session items t.store =
      match items.findSome? (refusalFor handle.dimension session) with
      | some e => (.error e, t.store)
      | none =>
        if maxId < t.lastId + items.length then (.error (.table .full), t.store)
        else (.ok (idsAfter t.lastId items.length),
          ((t.without (·.session == session)).addedAll items).store) := by
  cases hrefusal : items.findSome? (refusalFor handle.dimension session) with
  | some e => exact replaceSession_refused hrefusal t.store
  | none =>
    have hfits : ∀ item ∈ items, (t.without (·.session == session)).Fits item.2 := by
      intro item hitem
      have hnone := List.findSome?_eq_none_iff.mp hrefusal item hitem
      obtain ⟨hfilled, hlength⟩ := hopen.fits (length_of_refusalFor_eq_none hnone)
      exact ⟨hfilled, hlength.trans (dimension_eraseAll _ _).symm⟩
    have hall := addAll_eq (h.without (·.session == session)) hfits
    have hlast : (t.without (·.session == session)).lastId = t.lastId := rfl
    rw [replaceSession, forM_validateFor_eq, hrefusal]
    simp only [bind_apply, verdict_none, ensureSchema_store, transaction, discard_apply,
      deleteRows_store]
    rw [hlast] at hall
    split at hall
    case isTrue hshort =>
      obtain ⟨u, hu⟩ := hall
      rw [hu, if_pos hshort]
    case isFalse henough =>
      rw [hall, if_neg henough]

theorem setEmbedding_eq (hopen : Opened handle t) (id : Int) (embedding : Embedding) :
    setEmbedding handle id embedding t.store =
      if embedding.length ≠ handle.dimension then
        (.error (.dimension handle.dimension embedding.length), t.store)
      else if t.findings.any (·.id == id) then
        (.ok (), ((t.withoutEmbedding id).withEmbedding id embedding).store)
      else (.error (.finding (.missing id)), t.store) := by
  by_cases hlength : embedding.length = handle.dimension
  · rw [if_neg (not_not.mpr hlength)]
    by_cases hlive : t.findings.any (·.id == id) = true
    · obtain ⟨hfilled, hfits⟩ := hopen.fits hlength
      have hnone : (t.withoutEmbedding id).vectors.find? id = none := by
        simp [Vector.Table.find?_eq_none_iff, withoutEmbedding]
      have hput : (t.withoutEmbedding id).vectors.insert id embedding =
          .ok ((t.withoutEmbedding id).vectors.put id embedding) :=
        Vector.Table.insert_eq_ok_iff.mpr ⟨hfilled, hfits, hnone, rfl⟩
      simp only [setEmbedding, checkDimension_eq, if_neg (not_not.mpr hlength), bind_apply,
        verdict_none, ensureSchema_store, transaction, get_apply, require_findings, pure_apply,
        hlive, if_true, discard_apply, deleteEmbedding_store, insertEmbedding_store, hput]
      rfl
    · have hmissing : ∀ row ∈ t.findings, row.id ≠ id := by simpa using hlive
      rw [if_neg hlive, setEmbedding_missing (by rintro rows ⟨⟩; exact hmissing),
        if_neg (not_not.mpr hlength)]
      rfl
  · rw [if_pos hlength, setEmbedding, checkDimension_eq, if_pos hlength]
    rfl

end Findings.Store
