import Findings.Proofs.Files.Opening
import Findings.Proofs.Search.Reading
import Findings.Proofs.Store.Outcomes
import Findings.Proofs.Store.Runs

/-!
# Runs on files

Stores are opened, with any path and any dimension, and used through the handle that was opened
last. The dimension is held by the handle, and by the table of embeddings in the store; the schema
is made by another call than the one that opens the store. What keeps the two dimensions equal is
said by the history of a run, the applications of the schema that have succeeded: the first one at
a site decides, and a handle that is in use agrees with it. The history of the store without a file
begins anew with every opening of one.
-/
namespace Findings.Store

/-- The operation through another handle. -/
def Operation.through (handle : Handle) : Operation → Operation
  | reopen _ => reopen handle
  | applySchema _ => applySchema handle
  | upsertSession _ s => upsertSession handle s
  | insert _ f embedding => insert handle f embedding
  | replaceSession _ session items => replaceSession handle session items
  | setEmbedding _ id embedding => setEmbedding handle id embedding
  | delete _ id => delete handle id
  | deleteSession _ session => deleteSession handle session
  | deleteSessionRow session => deleteSessionRow session
  | updateTexts id content context kind => updateTexts id content context kind

/-- What a store holds if the schema was first applied with a dimension, or never. -/
def Holds : Option Nat → Store → Prop
  | none, s => s = {}
  | some dimension, s => Sound dimension s

/-- Without a schema none has been applied. -/
lemma Holds.eq_none {known : Option Nat} (h : Holds known {}) : known = none := by
  cases known with
  | none => rfl
  | some dimension =>
    obtain ⟨t, ht, -⟩ := h
    cases congrArg Store.migrated ht

end Findings.Store

namespace Findings.Files

open Findings.Search (Reading)
open Findings.Store

/-- What can be done with stores. -/
inductive Step where
  | openStore (path : String) (dimension : Nat)
  | openAndApply (path : String) (dimension : Nat)
  | use (operation : Operation)
  | read (reading : Reading)

/-- The files, and the handle that is in use: the one that was opened last. -/
structure State where
  tree : Tree
  handle : Option Handle

namespace Step

def action : Step → Handle → Action Unit
  | openStore _ _ => checkHandle
  | openAndApply _ _ => checkAndApply
  | use operation => fun handle => (operation.through handle).action
  | read reading => fun handle => reading.action handle

def applies : Step → Bool
  | openStore _ _ => false
  | openAndApply _ _ => true
  | use operation => operation.applies
  | read _ => false

def path? : Step → Option String
  | openStore path _ => some path
  | openAndApply path _ => some path
  | _ => none

/-- The outcome of a step: the handle in use after it, unless it fails, and the files. Without a
handle nothing is done. -/
def outcome (state : State) (step : Step) : Except Error (Option Handle) × Tree :=
  match step with
  | openStore path dimension => (some <$> Files.openStore path dimension) state.tree
  | openAndApply path dimension => (some <$> Files.openAndApply path dimension) state.tree
  | _ =>
    match state.handle with
    | none => (.ok none, state.tree)
    | some handle => ((fun _ => some handle) <$> onStore handle.path (step.action handle)) state.tree

/-- The state after a step. When opening fails, the handle that was in use stays in use. -/
def perform (state : State) (step : Step) : State :=
  match step.outcome state with
  | (.ok handle, tree) => ⟨tree, handle⟩
  | (.error _, tree) => ⟨tree, state.handle⟩

/-- The site and the dimension of the application of the schema in a step, if it has one and
succeeds. -/
def application? (state : State) (step : Step) : Option (Site × Nat) :=
  match step.applies, step.outcome state with
  | true, (.ok (some handle), tree) =>
    (tree.site? handle.path).map fun site => (site, handle.dimension)
  | _, _ => none

/-- Whether a step opens a store without a file. -/
def begins (tree : Tree) (step : Step) : Bool :=
  step.path?.any fun path => tree.target? path == some .own

/-- The history after a step: a new store without a file has none, and an application is the last
of its site. -/
def record (history : List (Site × Nat)) (state : State) (step : Step) : List (Site × Nat) :=
  (if step.begins state.tree && (step.outcome state).1.isOk then history.filter (·.1 != .own)
    else history) ++ (step.application? state).toList

end Step

open Step

/-- The state after steps, one after another. -/
def run (steps : List Step) (state : State) : State := steps.foldl perform state

/-- The applications of the schema that have succeeded, the first one first, to the stores that can
still be reached. -/
def applications : List Step → List (Site × Nat) → State → List (Site × Nat)
  | [], history, _ => history
  | step :: rest, history, state =>
    applications rest (step.record history state) (step.perform state)

/-- The dimension of the first application at a site. -/
def dimensionAt (history : List (Site × Nat)) (site : Site) : Option Nat :=
  (history.find? (·.1 == site)).map (·.2)

variable {history : List (Site × Nat)} {tree made : Tree} {place : Place} {site : Site}
  {contents : Store} {path : String} {handle : Handle} {step : Step} {state : State}

/-- Every store is as the history says. -/
structure Recorded (history : List (Site × Nat)) (tree : Tree) : Prop where
  holds : ∀ site contents, tree.storeOf? site = some contents →
    Holds (dimensionAt history site) contents
  noStore : ∀ site, tree.storeOf? site = none → dimensionAt history site = none

/-- There is a file of a store, unless it needs none. -/
def Tree.IsKept (tree : Tree) (site : Site) : Prop :=
  ∀ place, site = .file place → ∃ contents, tree.at? place = some (.store contents)

/-- The handle in use has a store, and the dimension of the schema in it. -/
structure InUse (history : List (Site × Nat)) (tree : Tree) (handle : Handle) : Prop where
  positive : 0 < handle.dimension
  store : ∃ site, tree.site? handle.path = some site ∧ tree.IsKept site ∧
    ∀ dimension ∈ dimensionAt history site, dimension = handle.dimension

/-- The state fits the history. -/
structure Fits (history : List (Site × Nat)) (state : State) : Prop where
  recorded : Recorded history state.tree
  inUse : ∀ handle ∈ state.handle, InUse history state.tree handle

lemma dimensionAt_append (history later : List (Site × Nat)) (site : Site) :
    dimensionAt (history ++ later) site =
      (dimensionAt history site).or (dimensionAt later site) := by
  simp [dimensionAt, List.find?_append, Option.map_or]

/-- At most one application, at a site. -/
lemma dimensionAt_toList (known : Option Nat) (site other : Site) :
    dimensionAt (known.map (Prod.mk site)).toList other =
      if other = site then known else none := by
  cases known with
  | none => simp [dimensionAt]
  | some dimension =>
    by_cases h : other = site
    · simp [dimensionAt, h]
    · simp [dimensionAt, h, Ne.symm h]

/-- Without the applications to a store without a file. -/
lemma dimensionAt_filter (history : List (Site × Nat)) (site : Site) :
    dimensionAt (history.filter (·.1 != .own)) site =
      if site = .own then none else dimensionAt history site := by
  unfold dimensionAt
  rw [List.find?_filter]
  split_ifs with hown
  · subst hown
    simp
  · congr 2
    funext entry
    by_cases hentry : entry.1 = site <;> simp [hentry, hown]

lemma Recorded.grows (h : Recorded history tree) (hgrows : Tree.Grows tree made) :
    Recorded history made := by
  have hsame (site : Site) : made.storeOf? site = tree.storeOf? site ∨
      made.storeOf? site = none ∧ tree.storeOf? site = some {} := by
    cases site with
    | own => exact .inl (congrArg some hgrows.own)
    | file place =>
      rcases hgrows.at? place with heq | ⟨hnone, hdirectory⟩
      · exact .inl (by rw [Tree.storeOf?, Tree.storeOf?, Tree.storeAt?, Tree.storeAt?, heq])
      · exact .inr ⟨by rw [Tree.storeOf?, Tree.storeAt?, hdirectory],
          by rw [Tree.storeOf?, Tree.storeAt?, hnone]⟩
  refine ⟨fun site contents hcontents => ?_, fun site hnone => ?_⟩
  · rcases hsame site with heq | ⟨hnone, -⟩
    · exact h.holds site contents (heq ▸ hcontents)
    · rw [hcontents] at hnone
      cases hnone
  · rcases hsame site with heq | ⟨-, hempty⟩
    · exact h.noStore site (heq ▸ hnone)
    · exact (h.holds site {} hempty).eq_none

/-- A store that is as another history says may be kept at its site, if the two histories say the
same of the other sites. -/
lemma Recorded.keep (h : Recorded history tree) {changed : Store}
    (hstored : tree.storeOf? site = some contents) {later : List (Site × Nat)}
    (hlater : ∀ other, other ≠ site → dimensionAt later other = dimensionAt history other)
    (hchanged : Holds (dimensionAt later site) changed) :
    Recorded later (tree.keep site changed) := by
  refine ⟨fun other found hfound => ?_, fun other hnone => ?_⟩
  · rw [Tree.storeOf?_keep hstored] at hfound
    split_ifs at hfound with hother
    · rw [hother, ← Option.some.inj hfound]
      exact hchanged
    · rw [hlater other hother]
      exact h.holds other found hfound
  · rw [Tree.storeOf?_keep hstored] at hnone
    split_ifs at hnone with hother
    rw [hlater other hother]
    exact h.noStore other hnone

/-- The dimension that a successful application of the schema tells. -/
def told (handle : Handle) (applies : Bool) : Except Error Unit → Option Nat
  | .ok () => if applies then some handle.dimension else none
  | .error _ => none

lemma told_false (handle : Handle) (result : Except Error Unit) : told handle false result = none := by
  cases result <;> rfl

lemma dimension_of_told {applies : Bool} {dimension : Nat}
    (h : told handle applies (.ok ()) = some dimension) : dimension = handle.dimension := by
  unfold told at h
  split_ifs at h
  exact (Option.some.inj h).symm

lemma applySchema_sound {dimension : Nat} (h : Sound dimension contents) (handle : Handle) :
    applySchema handle contents = (.ok (), contents) := by
  obtain ⟨t, rfl, -⟩ := h
  rfl

lemma holds_applySchema {known : Option Nat} (h : Holds known contents) (handle : Handle) :
    Holds (known.or (told handle true (applySchema handle contents).1))
      (applySchema handle contents).2 := by
  cases known with
  | none =>
    obtain rfl : contents = {} := h
    rw [applySchema_empty]
    split_ifs
    · exact rfl
    · exact ⟨_, rfl, coherent_fresh _, rfl⟩
  | some dimension =>
    rw [applySchema_sound h]
    exact h

lemma holds_checkAndApply {known : Option Nat} (h : Holds known contents) (handle : Handle) :
    Holds (known.or (told handle true (checkAndApply handle contents).1))
      (checkAndApply handle contents).2 := by
  have hread := readOnly_checkHandle handle contents
  rw [checkAndApply, Store.bind_apply]
  rcases hcheck : checkHandle handle contents with ⟨e | _, checked⟩ <;> rw [hcheck] at hread <;>
    obtain rfl : checked = contents := hread
  · exact (Option.or_none).symm ▸ h
  · exact holds_applySchema h handle

lemma applies_through (handle : Handle) (operation : Operation) :
    (operation.through handle).applies = operation.applies := by
  cases operation <;> rfl

/-- What a step leaves of a store: the schema is there if it was, or if the step has applied it. -/
theorem holds_action {known : Option Nat} (h : Holds known contents) (handle : Handle)
    (step : Step) :
    Holds (known.or (told handle step.applies (step.action handle contents).1))
      (step.action handle contents).2 := by
  cases step with
  | openStore path dimension =>
    rw [Step.applies, told_false, Option.or_none, Step.action, readOnly_checkHandle]
    exact h
  | openAndApply path dimension => exact holds_checkAndApply h handle
  | use operation =>
    cases happlies : operation.applies with
    | true =>
      cases operation with
      | applySchema other => exact holds_applySchema h handle
      | _ => cases happlies
    | false =>
      rw [Step.applies, happlies, told_false, Option.or_none]
      cases known with
      | none =>
        obtain rfl : contents = {} := h
        exact perform_empty_of_applies_eq_false ((applies_through handle operation).trans happlies)
      | some dimension => exact sound_perform h (operation.through handle)
  | read reading =>
    rw [Step.applies, told_false, Option.or_none, Step.action, reading.readOnly]
    exact h

/-- Opening succeeds with the dimension of the schema only. -/
lemma agrees_of_opening {dimension : Nat} (h : Sound dimension contents)
    (hok : (checkHandle handle contents).1 = .ok () ∨ (checkAndApply handle contents).1 = .ok ()) :
    dimension = handle.dimension := by
  obtain ⟨t, rfl, -, rfl⟩ := h
  by_contra hother
  have hcheck : checkHandle handle t.store = _ := checkHandle_store
  rw [if_neg hother] at hcheck
  rcases hok with hok | hok
  · rw [hcheck] at hok
    cases hok
  · rw [checkAndApply, Store.bind_apply, hcheck] at hok
    cases hok

/-- The outcome of a step that takes place on the store of a handle. -/
structure Lands (state : State) (step : Step) (handle : Handle) (made : Tree) (site : Site)
    (contents : Store) : Prop where
  grows : Tree.Grows state.tree made
  located : made.site? handle.path = some site
  stored : made.storeOf? site = some contents
  outcome : step.outcome state = ((step.action handle contents).1.map fun _ => some handle,
    made.keep site (step.action handle contents).2)
  inFile : step.begins state.tree = false
  /-- The handle has been opened by the step, or it has been in use before. -/
  agrees : (0 < handle.dimension ∧ ∀ dimension, Sound dimension contents →
      (step.action handle contents).1 = .ok () → dimension = handle.dimension) ∨
    state.handle = some handle

/-- The outcome of a step that opens a store without a file. -/
structure BeginsWith (state : State) (step : Step) (handle : Handle) (made : Tree) : Prop where
  grows : Tree.Grows state.tree made
  located : made.site? handle.path = some .own
  ok : (step.action handle {}).1 = .ok ()
  outcome : step.outcome state = (.ok (some handle), made.keep .own (step.action handle {}).2)
  begins : step.begins state.tree = true
  positive : 0 < handle.dimension

/-- A step fails before it comes to a store, and leaves new directories at most. -/
def Misses (state : State) (step : Step) : Prop :=
  ∃ e made, step.outcome state = (.error e, made) ∧ Tree.Grows state.tree made

/-- There is no handle for a step. -/
def Idles (state : State) (step : Step) : Prop :=
  step.outcome state = (.ok none, state.tree) ∧ state.handle = none ∧
    step.begins state.tree = false

lemma outcome_cases_of_opening {opening : Handle → Action Unit} {dimension : Nat}
    (houtcome : step.outcome state = (some <$> openWith opening path dimension) state.tree)
    (haction : step.action = opening) (hpath : step.path? = some path)
    (hopening : opening = checkHandle ∨ opening = checkAndApply) :
    Misses state step ∨
      (∃ handle made site contents, Lands state step handle made site contents) ∨
      ∃ handle made, BeginsWith state step handle made := by
  subst haction
  rw [map_apply] at houtcome
  have htarget (made : Tree) (hgrows : Tree.Grows state.tree made) :
      step.begins state.tree = (made.target? path == some .own) := by
    rw [Step.begins, hpath, hgrows.keeps.target?]
    rfl
  obtain ⟨e, made, hmisses, hgrows⟩ | ⟨hpositive, ⟨made, place, contents, hreaches⟩ |
    ⟨made, hbegins⟩⟩ := openWith_cases step.action path dimension state.tree
  · rw [hmisses] at houtcome
    exact .inl ⟨e, made, houtcome, hgrows⟩
  · rw [hreaches.openWith_eq hpositive] at houtcome
    refine .inr (.inl ⟨⟨path, dimension⟩, made, .file place, contents, hreaches.grows,
      hreaches.located, hreaches.stored, houtcome.trans ?_, ?_, .inl ⟨hpositive,
        fun known hsound hok => agrees_of_opening hsound ?_⟩⟩)
    · rcases (step.action ⟨path, dimension⟩ contents).1 with _ | _ <;> rfl
    · rw [htarget made hreaches.grows, beq_eq_false_iff_ne, ne_eq, ← Tree.site?_eq_own_iff,
        hreaches.located]
      exact fun hown => by cases hown
    · rcases hopening with heq | heq <;> rw [heq] at hok
      · exact .inl hok
      · exact .inr hok
  · rw [hbegins.openWith_eq hpositive] at houtcome
    rcases hresult : step.action ⟨path, dimension⟩ {} with ⟨e | _, changed⟩ <;>
      rw [hresult] at houtcome
    · exact .inl ⟨e, made, houtcome, hbegins.grows⟩
    · refine .inr (.inr ⟨⟨path, dimension⟩, made, hbegins.grows,
        Tree.site?_eq_own_iff.mpr hbegins.target, ?_, ?_, ?_, hpositive⟩)
      · rw [hresult]
      · rw [hresult]
        exact houtcome
      · rw [htarget made hbegins.grows, hbegins.target]
        rfl

lemma outcome_cases_of_using (hhandle : state.handle = some handle) (hpath : step.path? = none)
    (houtcome : step.outcome state =
      ((fun _ => some handle) <$> onStore handle.path (step.action handle)) state.tree) :
    Misses state step ∨
      ∃ handle made site contents, Lands state step handle made site contents := by
  rw [map_apply] at houtcome
  obtain hnone | ⟨site, contents, hsite, hcontents⟩ := onStore_cases state.tree handle.path
  · rw [hnone] at houtcome
    exact .inl ⟨.connection, state.tree, houtcome, .refl _⟩
  · rw [onStore_eq hsite hcontents] at houtcome
    refine .inr ⟨handle, state.tree, site, contents, .refl _, hsite, hcontents, houtcome, ?_,
      .inr hhandle⟩
    rw [Step.begins, hpath]
    rfl

/-- A step misses, or there is no handle for it, or it takes place, or it opens a store without a
file. -/
theorem outcome_cases (state : State) (step : Step) :
    Misses state step ∨ Idles state step ∨
      (∃ handle made site contents, Lands state step handle made site contents) ∨
      ∃ handle made, BeginsWith state step handle made := by
  have husing (hpath : step.path? = none) (hstep : ∀ handle, state.handle = some handle →
        step.outcome state =
          ((fun _ => some handle) <$> onStore handle.path (step.action handle)) state.tree)
      (hnone : state.handle = none → step.outcome state = (.ok none, state.tree)) :
      Misses state step ∨ Idles state step ∨
        ∃ handle made site contents, Lands state step handle made site contents := by
    cases hhandle : state.handle with
    | none => exact .inr (.inl ⟨hnone hhandle, hhandle, by rw [Step.begins, hpath]; rfl⟩)
    | some handle =>
      rcases outcome_cases_of_using hhandle hpath (hstep handle hhandle) with hmisses | hlands
      · exact .inl hmisses
      · exact .inr (.inr hlands)
  cases step with
  | openStore path dimension =>
    have houtcome : outcome state (.openStore path dimension) =
        (some <$> openWith checkHandle path dimension) state.tree := rfl
    rcases outcome_cases_of_opening houtcome rfl rfl (.inl rfl) with hmisses | hlands
    · exact .inl hmisses
    · exact .inr (.inr hlands)
  | openAndApply path dimension =>
    have houtcome : outcome state (.openAndApply path dimension) =
        (some <$> openWith checkAndApply path dimension) state.tree := rfl
    rcases outcome_cases_of_opening houtcome rfl rfl (.inr rfl) with hmisses | hlands
    · exact .inl hmisses
    · exact .inr (.inr hlands)
  | use operation =>
    refine (husing rfl (fun handle hhandle => ?_) fun hnone => ?_).imp id (.imp id .inl)
    · simp only [outcome, hhandle]
    · simp only [outcome, hnone]
  | read reading =>
    refine (husing rfl (fun handle hhandle => ?_) fun hnone => ?_).imp id (.imp id .inl)
    · simp only [outcome, hhandle]
    · simp only [outcome, hnone]

/-- A handle stays in use as long as its file is there. -/
lemma InUse.later {after : Tree} (h : InUse history tree handle) (hkeeps : Tree.Keeps tree after)
    (hfiles : ∀ place contents, tree.at? place = some (.store contents) →
      ∃ contents, after.at? place = some (.store contents)) :
    InUse history after handle := by
  obtain ⟨site, hsite, hkept, hdimension⟩ := h.store
  refine ⟨h.positive, site, hkeeps.site? hsite, fun place hplace => ?_, hdimension⟩
  obtain ⟨contents, hfile⟩ := hkept place hplace
  exact hfiles place contents hfile

lemma InUse.grows (h : InUse history tree handle) (hgrows : Tree.Grows tree made) :
    InUse history made handle :=
  h.later hgrows.keeps fun _ contents hfile => ⟨contents, hgrows.at?_eq_some hfile⟩

lemma Tree.at?_keep (h : tree.storeOf? (.file place) = some contents) (changed : Store)
    (other : Place) :
    (tree.keep (.file place) changed).at? other =
      if other = place then some (.store changed) else tree.at? other :=
  at?_put tree (ne_nil_of_storeAt? h) _ _

lemma InUse.keep (h : InUse history tree handle) (hstored : tree.storeOf? site = some contents)
    (changed : Store) : InUse history (tree.keep site changed) handle := by
  refine h.later (Tree.keeps_keep hstored changed) fun other found hother => ?_
  cases site with
  | own => exact ⟨found, hother⟩
  | file place =>
    rw [Tree.at?_keep hstored]
    split_ifs
    · exact ⟨changed, rfl⟩
    · exact ⟨found, hother⟩

/-- A store that has been kept is there. -/
lemma Tree.isKept_keep (hstored : tree.storeOf? site = some contents) (changed : Store) :
    (tree.keep site changed).IsKept site := by
  rintro place rfl
  exact ⟨changed, by rw [at?_keep hstored, if_pos rfl]⟩

/-! ### What a step records -/

/-- A step that does not succeed in applying the schema, and opens no store without a file, records
nothing. -/
lemma record_of_misses (h : Misses state step) : step.record history state = history := by
  obtain ⟨e, made, houtcome, -⟩ := h
  have happlication : step.application? state = none := by
    rw [application?, houtcome]
    cases step.applies <;> rfl
  simp [record, happlication, houtcome, Except.isOk, Except.toBool]

lemma record_of_idles (h : Idles state step) : step.record history state = history := by
  obtain ⟨houtcome, -, hbegins⟩ := h
  have happlication : step.application? state = none := by
    rw [application?, houtcome]
    cases step.applies <;> rfl
  simp [record, happlication, hbegins]

/-- A step that takes place tells its dimension at the site if it applies the schema. -/
lemma Lands.record (h : Lands state step handle made site contents)
    (history : List (Site × Nat)) :
    step.record history state = history ++
      ((told handle step.applies (step.action handle contents).1).map (Prod.mk site)).toList := by
  have hlocated := (Tree.keeps_keep h.stored (step.action handle contents).2).site? h.located
  have happlication : step.application? state =
      (told handle step.applies (step.action handle contents).1).map (Prod.mk site) := by
    rw [Step.application?, h.outcome]
    rcases (step.action handle contents).1 with e | _
    · cases step.applies <;> rfl
    · cases step.applies
      · rfl
      · simp only [Except.map, hlocated]
        rfl
  rw [Step.record, h.inFile, happlication]
  rfl

/-- A step that opens a store without a file tells the dimension of its schema, if it applies one. -/
lemma BeginsWith.record (h : BeginsWith state step handle made) (history : List (Site × Nat)) :
    step.record history state = history.filter (·.1 != .own) ++
      ((told handle step.applies (step.action handle {}).1).map (Prod.mk Site.own)).toList := by
  have hlocated := (Tree.keeps_own made (step.action handle {}).2).site? h.located
  have happlication : step.application? state =
      (told handle step.applies (step.action handle {}).1).map (Prod.mk Site.own) := by
    rw [Step.application?, h.outcome, h.ok]
    cases step.applies
    · rfl
    · simp only [hlocated]
      rfl
  rw [Step.record, h.begins, happlication, h.outcome]
  rfl

/-- What the history says of a site after a step that takes place there. -/
lemma Lands.dimensionAt_record (h : Lands state step handle made site contents)
    (history : List (Site × Nat)) (other : Site) :
    dimensionAt (step.record history state) other = (dimensionAt history other).or
      (if other = site then told handle step.applies (step.action handle contents).1 else none) := by
  rw [h.record, dimensionAt_append, dimensionAt_toList]

lemma BeginsWith.dimensionAt_record (h : BeginsWith state step handle made)
    (history : List (Site × Nat)) (other : Site) :
    dimensionAt (step.record history state) other =
      if other = .own then told handle step.applies (step.action handle {}).1
      else dimensionAt history other := by
  rw [h.record, dimensionAt_append, dimensionAt_toList, dimensionAt_filter]
  split_ifs
  · rfl
  · exact Option.or_none

/-- The handle of a step that succeeds agrees with the schema. -/
lemma Lands.dimension_eq (h : Lands state step handle made site contents) (hfits : Fits history state)
    (hok : (step.action handle contents).1 = .ok ()) :
    0 < handle.dimension ∧ ∀ dimension ∈ dimensionAt history site, dimension = handle.dimension := by
  have hholds := (hfits.recorded.grows h.grows).holds site contents h.stored
  rcases h.agrees with ⟨hpositive, hagrees⟩ | hhandle
  · refine ⟨hpositive, fun dimension hdimension => hagrees dimension ?_ hok⟩
    rw [hdimension] at hholds
    exact hholds
  · obtain ⟨hpositive, other, hother, -, hdimension⟩ := hfits.inUse handle hhandle
    have hsame : made.site? handle.path = some other := h.grows.keeps.site? hother
    obtain rfl : site = other := Option.some.inj (h.located.symm.trans hsame)
    exact ⟨hpositive, hdimension⟩

/-- A step that takes place leaves the stores as the history with its application says. -/
lemma Lands.recorded (h : Lands state step handle made site contents)
    (hrecorded : Recorded history state.tree) :
    Recorded (step.record history state)
      (made.keep site (step.action handle contents).2) := by
  have hmade := hrecorded.grows h.grows
  refine hmade.keep h.stored (fun other hother => ?_) ?_
  · rw [h.dimensionAt_record, if_neg hother, Option.or_none]
  · rw [h.dimensionAt_record, if_pos rfl]
    exact holds_action (hmade.holds site contents h.stored) handle step

/-- A new store without a file is as the history of its opening says. -/
lemma BeginsWith.recorded (h : BeginsWith state step handle made)
    (hrecorded : Recorded history state.tree) :
    Recorded (step.record history state) (made.keep .own (step.action handle {}).2) := by
  have hstored : made.storeOf? .own = some made.own := rfl
  refine (hrecorded.grows h.grows).keep hstored (fun other hother => ?_) ?_
  · rw [h.dimensionAt_record, if_neg hother]
  · rw [h.dimensionAt_record, if_pos rfl]
    have hempty : Holds none {} := rfl
    exact holds_action hempty handle step

lemma keeps_perform (state : State) (step : Step) :
    Tree.Keeps state.tree (step.perform state).tree := by
  rcases outcome_cases state step with ⟨e, made, houtcome, hgrows⟩ | ⟨houtcome, -⟩ |
    ⟨handle, made, site, contents, hlands⟩ | ⟨handle, made, hbegins⟩
  · rw [perform, houtcome]
    exact hgrows.keeps
  · rw [perform, houtcome]
    exact .refl _
  · have hkeeps := hlands.grows.keeps.trans
      (Tree.keeps_keep hlands.stored (step.action handle contents).2)
    rw [perform, hlands.outcome]
    cases (step.action handle contents).1 with
    | error e => exact hkeeps
    | ok => exact hkeeps
  · rw [perform, hbegins.outcome]
    exact hbegins.grows.keeps.trans (made.keeps_own _)

/-- A path leads where it led before a run. -/
theorem keeps_run (steps : List Step) (state : State) :
    Tree.Keeps state.tree (run steps state).tree := by
  induction steps generalizing state with
  | nil => exact .refl _
  | cons step rest ih => exact (keeps_perform state step).trans (ih (step.perform state))

/-- The history tells of the stores whichever handle is in use. -/
lemma recorded_perform (h : Recorded history state.tree) (step : Step) :
    Recorded (step.record history state) (step.perform state).tree := by
  rcases outcome_cases state step with hmisses | hidles |
    ⟨handle, made, site, contents, hlands⟩ | ⟨handle, made, hbegins⟩
  · rw [record_of_misses hmisses]
    obtain ⟨e, made, houtcome, hgrows⟩ := hmisses
    rw [perform, houtcome]
    exact h.grows hgrows
  · rw [record_of_idles hidles, perform, hidles.1]
    exact h
  · have hrecorded := hlands.recorded h
    rw [perform, hlands.outcome]
    cases (step.action handle contents).1 with
    | error e => exact hrecorded
    | ok => exact hrecorded
  · rw [perform, hbegins.outcome]
    exact hbegins.recorded h

theorem recorded_run (h : Recorded history state.tree) (steps : List Step) :
    Recorded (applications steps history state) (run steps state).tree := by
  induction steps generalizing history state with
  | nil => exact h
  | cons step rest ih => exact ih (recorded_perform h step)

/-- A handle that is in use stays in use through a step that takes place and fails. -/
lemma Lands.inUse_of_error (h : Lands state step handle made site contents)
    (hfits : Fits history state) {e : Error} (herror : (step.action handle contents).1 = .error e) :
    ∀ other ∈ (step.perform state).handle,
      InUse (step.record history state) (step.perform state).tree other := by
  have houtcome := h.outcome
  rw [herror] at houtcome
  have hrecord : step.record history state = history := by
    rw [h.record, herror]
    exact List.append_nil _
  rw [hrecord, perform, houtcome]
  exact fun other hother => ((hfits.inUse other hother).grows h.grows).keep h.stored _

/-- The handle of a step that takes place and succeeds is in use after it. -/
lemma Lands.inUse_of_ok (h : Lands state step handle made site contents)
    (hfits : Fits history state) (hok : (step.action handle contents).1 = .ok ()) :
    ∀ other ∈ (step.perform state).handle,
      InUse (step.record history state) (step.perform state).tree other := by
  have hperform : step.perform state =
      ⟨made.keep site (step.action handle contents).2, some handle⟩ := by
    rw [perform, h.outcome, hok]
    rfl
  obtain ⟨hpositive, hdimension⟩ := h.dimension_eq hfits hok
  rw [hperform]
  intro other hother
  obtain rfl := Option.some.inj hother
  refine ⟨hpositive, site, (Tree.keeps_keep h.stored _).site? h.located,
    Tree.isKept_keep h.stored _, fun dimension hmem => ?_⟩
  rw [h.dimensionAt_record, if_pos rfl, hok] at hmem
  rcases Option.or_eq_some_iff.mp hmem with hold | ⟨-, htold⟩
  · exact hdimension dimension hold
  · exact dimension_of_told htold

/-- The handle of a new store without a file is in use. -/
lemma BeginsWith.inUse (h : BeginsWith state step handle made) (history : List (Site × Nat)) :
    ∀ other ∈ (step.perform state).handle,
      InUse (step.record history state) (step.perform state).tree other := by
  rw [perform, h.outcome]
  intro other hother
  obtain rfl := Option.some.inj hother
  refine ⟨h.positive, .own, (made.keeps_own _).site? h.located,
    fun place hplace => (by cases hplace), fun dimension hmem => ?_⟩
  rw [h.dimensionAt_record, if_pos rfl, h.ok] at hmem
  exact dimension_of_told hmem

/-- A step keeps a state fitting to its history. -/
theorem fits_perform (h : Fits history state) (step : Step) :
    Fits (step.record history state) (step.perform state) := by
  refine ⟨recorded_perform h.recorded step, ?_⟩
  rcases outcome_cases state step with hmisses | hidles |
    ⟨handle, made, site, contents, hlands⟩ | ⟨handle, made, hbegins⟩
  · rw [record_of_misses hmisses]
    obtain ⟨e, made, houtcome, hgrows⟩ := hmisses
    rw [perform, houtcome]
    exact fun handle hhandle => (h.inUse handle hhandle).grows hgrows
  · rw [perform, hidles.1]
    intro handle hhandle
    cases hhandle
  · cases hresult : (step.action handle contents).1 with
    | error e => exact hlands.inUse_of_error h hresult
    | ok => exact hlands.inUse_of_ok h hresult
  · exact hbegins.inUse history

/-- A run keeps a state fitting to its history. -/
theorem fits_run (h : Fits history state) (steps : List Step) :
    Fits (applications steps history state) (run steps state) := by
  induction steps generalizing history state with
  | nil => exact h
  | cons step rest ih => exact ih (fits_perform h step)

end Findings.Files
