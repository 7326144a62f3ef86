import Findings.Proofs.Files.History

/-!
# The life of a store

The first application of the schema to a store makes all tables at once and fixes their dimension
for good. Every later opening of its file compares its dimension with that one, so a handle in use
and the table that it writes to never disagree about the length of an embedding. A path that names
no file leads to a new store at every opening.
-/
namespace Findings.Files

open Findings.Store

variable {history : List (Site × Nat)} {tree made : Tree} {place : Place} {site : Site}
  {contents : Store} {path : String} {handle : Handle} {state : State}

/-- What is true of the stores after a run with the given applications of the schema. -/
structure Lifecycle (history : List (Site × Nat)) (state : State) : Prop where
  /-- The schema is there with all of its tables, or there is nothing. -/
  whole : ∀ site contents, state.tree.storeOf? site = some contents →
    contents = {} ∨ ∃ t : Tables, contents = t.store ∧ Coherent t
  /-- The schema is there if and only if it has been applied. -/
  ensured : ∀ path site reader, state.tree.site? path = some site →
    ((onStore path (ensureSchema reader) state.tree).1 = .ok () ↔ site ∈ history.map (·.1))
  /-- The table of embeddings has the dimension of the first application. -/
  dimension : ∀ site (t : Tables), state.tree.storeOf? site = some t.store →
    dimensionAt history site = some t.vectors.dimension
  /-- On the way to a store nothing but missing directories is made. -/
  unmade : ∀ path made place contents, Reaches state.tree path made place contents →
    Tree.Grows state.tree made ∧ ∀ other, state.tree.locate path = .ok other → made = state.tree
  /-- With another dimension a file with a schema is not opened, and nothing changes. -/
  refused : ∀ path dimension made place (t : Tables), Reaches state.tree path made place t.store →
    0 < dimension → dimension ≠ t.vectors.dimension → ∃ after, Tree.Same made after ∧
      Files.openStore path dimension state.tree =
        (.error (.dimension t.vectors.dimension dimension), after) ∧
      Files.openAndApply path dimension state.tree =
        (.error (.dimension t.vectors.dimension dimension), after)
  /-- With its own dimension a file with a schema is opened as it is. -/
  opened : ∀ path made place (t : Tables), Reaches state.tree path made place t.store →
    0 < t.vectors.dimension → ∃ after, Tree.Same made after ∧
      Files.openStore path t.vectors.dimension state.tree =
        (.ok ⟨path, t.vectors.dimension⟩, after) ∧
      Files.openAndApply path t.vectors.dimension state.tree =
        (.ok ⟨path, t.vectors.dimension⟩, after)
  /-- Without a file the store that is opened is a new one, with any dimension. -/
  begun : ∀ path dimension made, Begins state.tree path made → 0 < dimension →
    Files.openStore path dimension state.tree = (.ok ⟨path, dimension⟩, made.keep .own {}) ∧
      (dimension ≤ maxDimension → Files.openAndApply path dimension state.tree =
        (.ok ⟨path, dimension⟩, made.keep .own (Tables.fresh dimension).store))
  /-- Applying the schema again changes nothing. -/
  reapplied : ∀ (handle : Handle) site (t : Tables), state.tree.site? handle.path = some site →
    state.tree.storeOf? site = some t.store → ∃ after, Tree.Same state.tree after ∧
      onStore handle.path (applySchema handle) state.tree = (.ok (), after)
  /-- The table takes the embeddings that pass the check of the handle in use. -/
  accepted : ∀ (handle : Handle) site (t : Tables), state.handle = some handle →
    state.tree.site? handle.path = some site → state.tree.storeOf? site = some t.store →
    handle.dimension = t.vectors.dimension ∧
      ∀ id embedding s, (checkDimension handle embedding s).1 = .ok () →
        t.vectors.insert id embedding =
          if (t.vectors.find? id).isSome then .error .duplicateEmbedding
          else .ok (t.vectors.put id embedding)

/-- A store with a schema is in a file of its own, or in none. -/
lemma Tree.same_keep {t : Tables} (h : tree.storeOf? site = some t.store) :
    Tree.Same tree (tree.keep site t.store) := by
  cases site with
  | own => exact ⟨rfl, (Option.some.inj h).symm, rfl, fun _ => rfl⟩
  | file place =>
    refine same_put ?_
    simp only [storeOf?, storeAt?] at h
    split at h
    · cases congrArg Store.migrated (Option.some.inj h)
    · obtain rfl := Option.some.inj h
      assumption
    · split_ifs at h
      cases congrArg Store.migrated (Option.some.inj h)
    · cases h

/-- The dimension of the first application is that of the table. -/
lemma Recorded.dimensionAt_eq {t : Tables} (h : Recorded history tree)
    (ht : tree.storeOf? site = some t.store) :
    Coherent t ∧ dimensionAt history site = some t.vectors.dimension := by
  have hholds := h.holds site _ ht
  cases hdimension : dimensionAt history site with
  | none =>
    rw [hdimension] at hholds
    cases congrArg Store.migrated hholds
  | some dimension =>
    rw [hdimension] at hholds
    obtain ⟨u, hu, hcoherent, rfl⟩ := hholds
    obtain rfl : t = u := by
      cases t
      cases u
      simp_all [Tables.store]
    exact ⟨hcoherent, rfl⟩

/-- The schema is there if and only if it has been applied. -/
lemma Recorded.ensured (h : Recorded history tree) (hsite : tree.site? path = some site)
    (reader : Handle) :
    (onStore path (ensureSchema reader) tree).1 = .ok () ↔ site ∈ history.map (·.1) := by
  have hhistory : site ∈ history.map (·.1) ↔ (dimensionAt history site).isSome := by
    simp [dimensionAt]
  rw [hhistory]
  cases hcontents : tree.storeOf? site with
  | none =>
    rw [h.noStore site hcontents]
    simp [onStore, hsite, hcontents]
  | some contents =>
    have hholds := h.holds site contents hcontents
    rw [onStore_eq hsite hcontents]
    cases hdimension : dimensionAt history site with
    | none =>
      rw [hdimension] at hholds
      obtain rfl : contents = {} := hholds
      apply iff_of_false
      · intro hok
        cases hok
      · intro hsome
        cases hsome
    | some dimension =>
      rw [hdimension] at hholds
      obtain ⟨t, rfl, -⟩ := hholds
      exact iff_of_true rfl rfl

/-- An embedding of the length of a table is refused for being a second one of its id only. -/
lemma insert_of_length {table : Vector.Table} {embedding : Record.Embedding}
    (hpositive : 0 < table.dimension) (hlength : embedding.length = table.dimension) (id : Int) :
    table.insert id embedding =
      if (table.find? id).isSome then .error .duplicateEmbedding
      else .ok (table.put id embedding) := by
  have hfilled : embedding.isEmpty = false := by
    cases embedding
    · exact absurd hlength (by simpa using Nat.ne_of_lt hpositive)
    · rfl
  rw [Vector.Table.insert, hfilled, hlength]
  simp [Vector.Table.put]

/-- Opening with another dimension than that of the schema fails and changes nothing. -/
lemma refused_of_reaches {dimension : Nat} {t : Tables}
    (h : Reaches tree path made place t.store) (hpositive : 0 < dimension)
    (hother : dimension ≠ t.vectors.dimension) :
    ∃ after, Tree.Same made after ∧
      Files.openStore path dimension tree =
        (.error (.dimension t.vectors.dimension dimension), after) ∧
      Files.openAndApply path dimension tree =
        (.error (.dimension t.vectors.dimension dimension), after) := by
  have hcheck : checkHandle ⟨path, dimension⟩ t.store =
      (.error (.dimension t.vectors.dimension dimension), t.store) := by
    rw [checkHandle_store, if_neg hother.symm]
  have hstored : made.storeOf? (.file place) = some t.store := h.stored
  refine ⟨_, Tree.same_keep hstored, ?_, ?_⟩
  · rw [openStore, h.openWith_eq hpositive, hcheck]
    rfl
  · rw [openAndApply, h.openWith_eq hpositive, checkAndApply, Store.bind_apply, hcheck]
    rfl

/-- Opening with the dimension of the schema succeeds and changes nothing. -/
lemma opened_of_reaches {t : Tables} (h : Reaches tree path made place t.store)
    (hpositive : 0 < t.vectors.dimension) :
    ∃ after, Tree.Same made after ∧
      Files.openStore path t.vectors.dimension tree = (.ok ⟨path, t.vectors.dimension⟩, after) ∧
      Files.openAndApply path t.vectors.dimension tree =
        (.ok ⟨path, t.vectors.dimension⟩, after) := by
  have hcheck : checkHandle ⟨path, t.vectors.dimension⟩ t.store = (.ok (), t.store) := by
    rw [checkHandle_store, if_pos rfl]
  have hstored : made.storeOf? (.file place) = some t.store := h.stored
  refine ⟨_, Tree.same_keep hstored, ?_, ?_⟩
  · rw [openStore, h.openWith_eq hpositive, hcheck]
    rfl
  · rw [openAndApply, h.openWith_eq hpositive, checkAndApply, Store.bind_apply, hcheck]
    rfl

/-- Opening without a file makes a new store. -/
lemma opened_of_begins {dimension : Nat} (h : Begins tree path made) (hpositive : 0 < dimension) :
    Files.openStore path dimension tree = (.ok ⟨path, dimension⟩, made.keep .own {}) ∧
      (dimension ≤ maxDimension → Files.openAndApply path dimension tree =
        (.ok ⟨path, dimension⟩, made.keep .own (Tables.fresh dimension).store)) := by
  constructor
  · rw [openStore, h.openWith_eq hpositive]
    rfl
  · intro hsmall
    have happlied : checkAndApply ⟨path, dimension⟩ {} = (.ok (), (Tables.fresh dimension).store) := by
      have hcheck : checkHandle ⟨path, dimension⟩ {} = (.ok (), {}) := rfl
      rw [checkAndApply, Store.bind_apply, hcheck]
      show applySchema ⟨path, dimension⟩ {} = _
      rw [applySchema_empty, if_neg (Nat.not_lt.mpr hsmall)]
    rw [openAndApply, h.openWith_eq hpositive, happlied]

/-- The history of a run decides the life of its stores. -/
theorem lifecycle_of_fits (h : Fits history state) : Lifecycle history state where
  whole site contents hcontents := by
    have hholds := h.recorded.holds site contents hcontents
    cases hdimension : dimensionAt history site with
    | none =>
      rw [hdimension] at hholds
      exact .inl hholds
    | some dimension =>
      rw [hdimension] at hholds
      obtain ⟨t, ht, hcoherent, -⟩ := hholds
      exact .inr ⟨t, ht, hcoherent⟩
  ensured path site reader hsite := h.recorded.ensured hsite reader
  dimension site t ht := (h.recorded.dimensionAt_eq ht).2
  unmade path made place contents hreaches := ⟨hreaches.grows, fun _ => hreaches.eq_of_locate⟩
  refused path dimension made place t := refused_of_reaches
  opened path made place t := opened_of_reaches
  begun path dimension made := opened_of_begins
  reapplied handle site t hsite ht :=
    ⟨_, Tree.same_keep ht, onStore_eq hsite ht (applySchema handle)⟩
  accepted handle site t hhandle hsite ht := by
    obtain ⟨hpositive, other, hother, -, hagrees⟩ := h.inUse handle hhandle
    obtain rfl : site = other := Option.some.inj (hsite.symm.trans hother)
    have hdimension := (h.recorded.dimensionAt_eq ht).2
    have hsame := hagrees _ hdimension
    refine ⟨hsame.symm, fun id embedding s hok => insert_of_length (hsame ▸ hpositive) ?_ id⟩
    rw [checkDimension_eq] at hok
    split_ifs at hok with hlength
    · cases hok
    · exact (not_not.mp hlength).trans hsame.symm

/-- A site with an application has a store with the dimension of the first one. -/
lemma Recorded.store_of_dimensionAt {dimension : Nat} (h : Recorded history tree)
    (hdimension : dimensionAt history site = some dimension) :
    ∃ t : Tables, tree.storeOf? site = some t.store ∧ Coherent t ∧
      t.vectors.dimension = dimension := by
  cases hcontents : tree.storeOf? site with
  | none =>
    rw [h.noStore site hcontents] at hdimension
    cases hdimension
  | some contents =>
    have hholds := h.holds site contents hcontents
    rw [hdimension] at hholds
    obtain ⟨t, rfl, hcoherent, hsame⟩ := hholds
    exact ⟨t, rfl, hcoherent, hsame⟩

/-! ### What lasts -/

/-- A site keeps its store in a step: it is a file, or no store without a file is opened. -/
def Outlives (tree : Tree) (site : Site) (step : Step) : Prop :=
  site = .own → step.begins tree = false

lemma Outlives.perform {step : Step} (h : Outlives state.tree site step) (last : Step) :
    Outlives (last.perform state).tree site step := by
  intro hown
  rw [← h hown, Step.begins, Step.begins, funext (keeps_perform state last).target?]

/-- The first application stays the first one. -/
lemma dimensionAt_record {dimension : Nat} {step : Step} (h : Outlives state.tree site step)
    (hdimension : dimensionAt history site = some dimension) :
    dimensionAt (step.record history state) site = some dimension := by
  rw [Step.record, dimensionAt_append]
  split_ifs with hbegins
  · have hother : site ≠ .own := fun hown => by
      rw [h hown] at hbegins
      cases hbegins
    rw [dimensionAt_filter, if_neg hother, hdimension]
    rfl
  · rw [hdimension]
    rfl

lemma dimensionAt_applications {dimension : Nat} {later : List Step}
    (h : ∀ step ∈ later, Outlives state.tree site step)
    (hdimension : dimensionAt history site = some dimension) :
    dimensionAt (applications later history state) site = some dimension := by
  induction later generalizing history state with
  | nil => exact hdimension
  | cons step rest ih =>
    exact ih (fun other hother => (h other (List.mem_cons_of_mem step hother)).perform step)
      (dimensionAt_record (h step List.mem_cons_self) hdimension)

/-- What the first application at a site has made lasts, with its dimension. -/
lemma lasting (h : Fits history state) {t : Tables} (ht : state.tree.storeOf? site = some t.store)
    {later : List Step} (hlater : ∀ step ∈ later, Outlives state.tree site step) :
    ∃ u : Tables, (run later state).tree.storeOf? site = some u.store ∧ Coherent u ∧
      u.vectors.dimension = t.vectors.dimension :=
  (recorded_run h.recorded later).store_of_dimensionAt
    (dimensionAt_applications hlater (h.recorded.dimensionAt_eq ht).2)

/-! ### Runs -/

/-- How the names of the files end that the engine keeps beside the file of a store. -/
def companionEndings : List String := ["-journal", "-wal", "-shm"]

/-- Whether a path could name a file that the engine keeps beside the file of another store. -/
def isCompanion (path : String) : Bool :=
  (components path).getLast?.any fun name =>
    companionEndings.any fun ending => ending.toList.isSuffixOf name.toList

/-- A step that opens nothing but what may be opened: not the companion of another store, and not
with a dimension that the engine, which reads it as a signed number of 32 bits, takes for another. -/
def Step.IsPlain (tree : Tree) : Step → Prop
  | openStore path dimension | openAndApply path dimension =>
    dimension < 2 ^ 31 ∧ ∀ name, tree.target? path = some (.file name) → isCompanion name = false
  | _ => True

abbrev PlainStep (tree : Tree) := { step : Step // step.IsPlain tree }

/-- Without files there is no schema. -/
lemma Tree.blank_of_bare {working : Place} (site : Site) (contents : Store)
    (hcontents : (Tree.bare working).storeOf? site = some contents) : contents = {} := by
  cases site with
  | own => exact (Option.some.inj hcontents).symm
  | file place =>
    cases place with
    | nil => cases hcontents
    | cons name names => exact (Option.some.inj hcontents).symm

/-- From files without schemas on, whatever is opened, applied, used and read, with whatever paths
and dimensions, the schema of a store is made once, as a whole, and with the dimension of the first
application, which every handle has that is opened later. A store without a file lasts until the
next one is opened, and one in a file for good. -/
theorem lifecycle_of_run {tree : Tree}
    (hblank : ∀ site contents, tree.storeOf? site = some contents → contents = {})
    (steps : List (PlainStep tree)) :
    let done := run (steps.map (·.1)) ⟨tree, none⟩
    Lifecycle (applications (steps.map (·.1)) [] ⟨tree, none⟩) done ∧
      ∀ (later : List (PlainStep tree)) site (t : Tables),
        done.tree.storeOf? site = some t.store →
        (site = .own → ∀ step ∈ later, step.1.begins tree = false) →
        ∃ u : Tables,
          (run ((steps ++ later).map (·.1)) ⟨tree, none⟩).tree.storeOf? site = some u.store ∧
          Coherent u ∧ u.vectors.dimension = t.vectors.dimension := by
  intro done
  have hstart : Fits [] ⟨tree, none⟩ :=
    ⟨⟨hblank, fun _ _ => rfl⟩, fun handle hhandle => by cases hhandle⟩
  have hfits := fits_run hstart (steps.map (·.1))
  refine ⟨lifecycle_of_fits hfits, fun later site t ht hlater => ?_⟩
  have happend : run ((steps ++ later).map (·.1)) ⟨tree, none⟩ = run (later.map (·.1)) done := by
    rw [List.map_append]
    exact List.foldl_append
  rw [happend]
  refine lasting hfits ht fun step hstep hown => ?_
  obtain ⟨plain, hplain, rfl⟩ := List.mem_map.mp hstep
  rw [← hlater hown plain hplain, Step.begins, Step.begins,
    funext (keeps_run (steps.map (·.1)) ⟨tree, none⟩).target?]

/-- A store is opened, its schema is applied, and opening it for longer embeddings fails, unlike
opening one in memory. -/
theorem lifecycle_of_run_refused :
    let files := Tree.bare []
    let steps : List Step := [.openStore "findings.db" 1, .use (.applySchema ⟨"findings.db", 1⟩),
      .openAndApply "findings.db" 2, .openAndApply ":memory:" 2]
    let applied : List (Site × Nat) := [(.file ["findings.db"], 1), (.own, 2)]
    (∀ site contents, files.storeOf? site = some contents → contents = {}) ∧
      (∀ step ∈ steps, step.IsPlain files) ∧
      applications steps [] ⟨files, none⟩ = applied ∧
      Lifecycle applied (run steps ⟨files, none⟩) := by
  intro files steps applied
  have hfile : ∀ name, files.target? "findings.db" = some (.file name) →
      isCompanion name = false := by
    have htarget : files.target? "findings.db" = some (.file "findings.db") := by decide +kernel
    rintro name hname
    obtain rfl := Target.file.inj (Option.some.inj (htarget.symm.trans hname))
    decide +kernel
  have hmemory : ∀ name, files.target? ":memory:" = some (.file name) → isCompanion name = false := by
    have htarget : files.target? ":memory:" = some .own := by decide +kernel
    rintro name hname
    cases htarget.symm.trans hname
  have hplain : ∀ step ∈ steps, step.IsPlain files := by
    simp only [steps, List.forall_mem_cons]
    exact ⟨⟨by decide, hfile⟩, trivial, ⟨by decide, hfile⟩, ⟨by decide, hmemory⟩,
      List.forall_mem_nil _⟩
  have happlications : applications steps [] ⟨files, none⟩ = applied := by decide +kernel
  let plain : List (PlainStep files) := steps.attach.map fun step => ⟨step.1, hplain step.1 step.2⟩
  have hsteps : plain.map (·.1) = steps := rfl
  have hlifecycle := (lifecycle_of_run Tree.blank_of_bare plain).1
  rw [hsteps, happlications] at hlifecycle
  exact ⟨Tree.blank_of_bare, hplain, happlications, hlifecycle⟩

/-- In memory a store with another dimension is opened, and it has no schema. -/
theorem openStore_in_memory :
    let applied := Files.openAndApply ":memory:" 1 (.bare [])
    let opened := Files.openStore ":memory:" 2 applied.2
    applied.1 = .ok ⟨":memory:", 1⟩ ∧
      opened.1 = .ok ⟨":memory:", 2⟩ ∧
      opened.1 ≠ .error (.dimension 1 2) ∧
      (onStore ":memory:" (ensureSchema ⟨":memory:", 2⟩) opened.2).1 =
        .error (.schemaMissing ":memory:") := by
  decide +kernel

end Findings.Files
