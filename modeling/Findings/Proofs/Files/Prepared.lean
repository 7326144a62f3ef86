import Findings.Proofs.Files.Lifecycle

/-!
# Prepared handles

A handle is prepared by opening a store and applying the schema through it. Later steps, through
this handle or others and on this store or others, never take the tables away again: the path leads
where it led, and the history of the stores keeps the application. The table of embeddings may have
another dimension than the handle, if another handle was the first to apply the schema.
-/
namespace Findings.Files

open Findings.Store

variable {history : List (Site × Nat)} {site : Site} {path : String} {dimension : Nat}
  {handle : Handle} {tree : Tree}

/-- A handle that was opened with a dimension and through which the schema was applied. Anything
may have been done with the files before, in between and since then, through other handles too. If
the handle has no file, no other such store has been opened since, which would be in its place. -/
def Prepared (path : String) (dimension : Nat) (handle : Handle) (tree : Tree) : Prop :=
  ∃ (blank opened applied : Tree) (before middle later : List Step) (first second : Option Handle),
    (∀ site contents, blank.storeOf? site = some contents → contents = {}) ∧
    openStore path dimension (run before ⟨blank, none⟩).tree = (.ok handle, opened) ∧
    (∀ step ∈ middle ++ later, opened.site? path = some .own → step.begins opened = false) ∧
    onStore path (applySchema handle) (run middle ⟨opened, first⟩).tree = (.ok (), applied) ∧
    tree = (run later ⟨applied, second⟩).tree

/-- What is opened has the given path and dimension, and a store. -/
lemma located_of_openStore {opened : Tree}
    (h : openStore path dimension tree = (.ok handle, opened)) :
    handle = ⟨path, dimension⟩ ∧ ∃ site, opened.site? path = some site := by
  rw [openStore] at h
  rcases openWith_cases checkHandle path dimension tree with ⟨e, made, herror, -⟩ |
    ⟨hpositive, ⟨made, place, contents, hreaches⟩ | ⟨made, hbegins⟩⟩
  · rw [herror] at h
    cases h
  · rw [hreaches.openWith_eq hpositive] at h
    obtain ⟨hresult, rfl⟩ := Prod.mk.inj h
    have hstored : made.storeOf? (.file place) = some contents := hreaches.stored
    refine ⟨?_, .file place, (Tree.keeps_keep hstored _).site? hreaches.located⟩
    cases hcheck : (checkHandle ⟨path, dimension⟩ contents).1 with
    | error e =>
      rw [hcheck] at hresult
      cases hresult
    | ok =>
      rw [hcheck] at hresult
      exact (Except.ok.inj hresult).symm
  · rw [hbegins.openWith_eq hpositive] at h
    obtain ⟨hresult, rfl⟩ := Prod.mk.inj h
    exact ⟨(Except.ok.inj hresult).symm, .own,
      (made.keeps_own {}).site? (Tree.site?_eq_own_iff.mpr hbegins.target)⟩

lemma recorded_openStore {opened : Tree} (h : Recorded history tree)
    (hopen : openStore path dimension tree = (.ok handle, opened)) :
    ∃ later, Recorded later opened := by
  let state : State := ⟨tree, none⟩
  have houtcome : (Step.openStore path dimension).outcome state = (.ok (some handle), opened) := by
    rw [Step.outcome, map_apply, hopen]
    rfl
  have hrecorded : Recorded history state.tree := h
  have hperform := recorded_perform hrecorded (.openStore path dimension)
  rw [Step.perform, houtcome] at hperform
  exact ⟨_, hperform⟩

/-- The history goes on with an application of the schema. -/
lemma recorded_applySchema {applied : Tree} (h : Recorded history tree)
    (hsite : tree.site? handle.path = some site)
    (happly : onStore handle.path (applySchema handle) tree = (.ok (), applied)) :
    Tree.Keeps tree applied ∧ Recorded (history ++ [(site, handle.dimension)]) applied := by
  let state : State := ⟨tree, some handle⟩
  let step : Step := .use (.applySchema handle)
  have houtcome : step.outcome state = (.ok (some handle), applied) := by
    show ((fun _ => some handle) <$> onStore handle.path (step.action handle)) tree = _
    rw [map_apply, show onStore handle.path (step.action handle) tree = _ from happly]
    rfl
  have hkeeps := keeps_perform state step
  have hrecorded := recorded_perform (show Recorded history state.tree from h) step
  rw [Step.perform, houtcome] at hkeeps hrecorded
  have happlied := hkeeps.site? hsite
  have hrecord : step.record history state = history ++ [(site, handle.dimension)] := by
    have happlication : step.application? state = some (site, handle.dimension) := by
      rw [Step.application?, houtcome]
      simp only [step, Step.applies, Operation.applies, happlied]
      rfl
    rw [Step.record, happlication]
    rfl
  rw [hrecord] at hrecorded
  exact ⟨hkeeps, hrecorded⟩

/-- Where the schema has been applied its dimension is known. -/
lemma exists_dimensionAt (history : List (Site × Nat)) (site : Site) (dimension : Nat) :
    ∃ first, dimensionAt (history ++ [(site, dimension)]) site = some first := by
  rw [← Option.isSome_iff_exists, dimensionAt, Option.isSome_map, List.find?_isSome]
  exact ⟨_, List.mem_append_right _ List.mem_cons_self, beq_self_eq_true _⟩

/-- A prepared handle leads to a store with all of its tables. -/
theorem Prepared.store (h : Prepared path dimension handle tree) :
    handle = ⟨path, dimension⟩ ∧ ∃ (site : Site) (t : Tables), tree.site? path = some site ∧
      tree.storeOf? site = some t.store ∧ Coherent t := by
  obtain ⟨blank, opened, applied, before, middle, later, first, second, hblank, hopen, hlasts,
    happly, rfl⟩ := h
  obtain ⟨rfl, site, hsite⟩ := located_of_openStore hopen
  refine ⟨rfl, site, ?_⟩
  -- the history of the whole run has the application through the handle in it, whatever came before
  have hblankRecorded : Recorded [] (State.mk blank none).tree := ⟨hblank, fun _ _ => rfl⟩
  obtain ⟨known, hopened⟩ := recorded_openStore (recorded_run hblankRecorded before) hopen
  have hmiddle := recorded_run (show Recorded _ (State.mk opened first).tree from hopened) middle
  have hkeptMiddle := keeps_run middle ⟨opened, first⟩
  have hmiddleSite : (run middle ⟨opened, first⟩).tree.site? (Handle.mk path dimension).path =
      some site := hkeptMiddle.site? hsite
  obtain ⟨hkeptApplied, happlied⟩ := recorded_applySchema hmiddle hmiddleSite happly
  obtain ⟨known, hdimension⟩ :=
    exists_dimensionAt (applications middle known ⟨opened, first⟩) site dimension
  have hkept := hkeptMiddle.trans hkeptApplied
  have houtlives : ∀ step ∈ later, Outlives (State.mk applied second).tree site step := by
    rintro step hstep rfl
    rw [← hlasts step (List.mem_append_right middle hstep) hsite, Step.begins, Step.begins,
      funext hkept.target?]
  have hlater := recorded_run (show Recorded _ (State.mk applied second).tree from happlied) later
  obtain ⟨t, hstored, hcoherent, -⟩ :=
    hlater.store_of_dimensionAt (dimensionAt_applications houtlives hdimension)
  exact ⟨t, (keeps_run later ⟨applied, second⟩).site? (hkept.site? hsite), hstored, hcoherent⟩

lemma checkAndApply_eq_ok {contents changed : Store}
    (h : checkAndApply handle contents = (.ok (), changed)) :
    checkHandle handle contents = (.ok (), contents) ∧
      applySchema handle contents = (.ok (), changed) := by
  obtain ⟨_, checked, hcheck, happly⟩ := Store.bind_eq_ok_iff.mp h
  have hread : checked = contents := by
    rw [← readOnly_checkHandle handle contents, hcheck]
  exact ⟨hread ▸ hcheck, hread ▸ happly⟩

/-- Opening and applying the schema succeed one after the other if they succeed at once. -/
lemma openStore_of_openAndApply {applied : Tree}
    (h : openAndApply path dimension tree = (.ok handle, applied)) :
    ∃ opened, openStore path dimension tree = (.ok handle, opened) ∧
      onStore path (applySchema handle) opened = (.ok (), applied) := by
  rw [openAndApply] at h
  rcases openWith_cases checkAndApply path dimension tree with ⟨e, made, herror, -⟩ |
    ⟨hpositive, ⟨made, place, contents, hreaches⟩ | ⟨made, hbegins⟩⟩
  · rw [herror] at h
    cases h
  · rw [hreaches.openWith_eq hpositive] at h
    rcases hresult : checkAndApply ⟨path, dimension⟩ contents with ⟨e | _, changed⟩ <;>
      rw [hresult] at h <;> obtain ⟨hhandle, rfl⟩ := Prod.mk.inj h
    · cases hhandle
    · obtain rfl : ⟨path, dimension⟩ = handle := Except.ok.inj hhandle
      obtain ⟨hcheck, happly⟩ := checkAndApply_eq_ok hresult
      have hstored : made.storeOf? (.file place) = some contents := hreaches.stored
      have hsite := (Tree.keeps_keep hstored contents).site? hreaches.located
      have hkept := Tree.storeOf?_keep hstored contents (.file place)
      rw [if_pos rfl] at hkept
      refine ⟨made.keep (.file place) contents, ?_, ?_⟩
      · rw [openStore, hreaches.openWith_eq hpositive, hcheck]
        rfl
      · rw [onStore_eq hsite hkept, happly, Tree.keep_keep]
  · rw [hbegins.openWith_eq hpositive] at h
    rcases hresult : checkAndApply ⟨path, dimension⟩ {} with ⟨e | _, changed⟩ <;>
      rw [hresult] at h <;> obtain ⟨hhandle, rfl⟩ := Prod.mk.inj h
    · cases hhandle
    · obtain rfl : ⟨path, dimension⟩ = handle := Except.ok.inj hhandle
      obtain ⟨hcheck, happly⟩ := checkAndApply_eq_ok hresult
      have hsite := (made.keeps_own {}).site? (Tree.site?_eq_own_iff.mpr hbegins.target)
      have hkept : (made.keep .own {}).storeOf? .own = some {} := rfl
      refine ⟨made.keep .own {}, ?_, ?_⟩
      · rw [openStore, hbegins.openWith_eq hpositive, hcheck]
      · rw [onStore_eq hsite hkept, happly, Tree.keep_keep]

/-- Opening and applying the schema at once prepares a handle. -/
lemma prepared_of_openAndApply {blank applied : Tree} (before : List Step)
    (hblank : ∀ site contents, blank.storeOf? site = some contents → contents = {})
    (h : openAndApply path dimension (run before ⟨blank, none⟩).tree = (.ok handle, applied)) :
    Prepared path dimension handle applied := by
  obtain ⟨opened, hopen, happly⟩ := openStore_of_openAndApply h
  exact ⟨blank, opened, applied, before, [], [], none, none, hblank, hopen,
    fun step hstep => absurd hstep List.not_mem_nil, happly, rfl⟩

end Findings.Files
