import Findings.Files.Database
import Findings.Proofs.Files.Tree
import Findings.Proofs.Store.Failure

/-!
# Opening stores

Opening makes the directories above a path and then takes a step on the store that the path leads
to: it checks the dimension, and it may apply the schema. A step changes the store at one place and
nothing else.
-/
namespace Findings.Files

open Findings.Store

section Run

variable {α β : Type}

@[simp] lemma pure_apply (a : α) (tree : Tree) : (pure a : FileAction α) tree = (.ok a, tree) := rfl

@[simp] lemma throw_apply (e : Error) (tree : Tree) :
    (throw e : FileAction α) tree = (.error e, tree) := rfl

@[simp] lemma get_apply (tree : Tree) : (get : FileAction Tree) tree = (.ok tree, tree) := rfl

@[simp] lemma set_apply (made tree : Tree) : (set made : FileAction PUnit) tree = (.ok ⟨⟩, made) :=
  rfl

@[simp] lemma bind_apply (x : FileAction α) (f : α → FileAction β) (tree : Tree) :
    (x >>= f) tree = match x tree with
      | (.ok a, made) => f a made
      | (.error e, made) => (.error e, made) := by
  change ExceptT.bind x f tree = _
  simp only [ExceptT.bind, ExceptT.mk, bind, StateT.bind]
  rcases x tree with ⟨_ | _, _⟩ <;> rfl

@[simp] lemma map_apply (f : α → β) (x : FileAction α) (tree : Tree) :
    (f <$> x) tree = ((x tree).1.map f, (x tree).2) := by
  rw [← bind_pure_comp, bind_apply]
  rcases x tree with ⟨_ | _, _⟩ <;> rfl

end Run

variable {tree made : Tree} {path : String} {place : Place} {site : Site} {contents : Store}
  {dimension : Nat}

/-- There is a store at a place of a file only. -/
lemma Tree.at?_ne_directory (h : tree.storeAt? place = some contents) :
    tree.at? place ≠ some .directory := by
  intro hdirectory
  rw [Tree.storeAt?, hdirectory] at h
  cases h

lemma Tree.ne_nil_of_storeAt? (h : tree.storeAt? place = some contents) : place ≠ [] := by
  rintro rfl
  exact Tree.at?_ne_directory h rfl

lemma Tree.put_put (tree : Tree) (place : Place) (first second : Entry) :
    (tree.put place first).put place second = tree.put place second := by
  simp [put]

/-- A store that is put where it is already leaves everything the same. -/
lemma Tree.same_put (h : tree.at? place = some (.store contents)) :
    Tree.Same tree (tree.put place (.store contents)) := by
  have hplace : place ≠ [] := by
    rintro rfl
    cases h
  refine ⟨rfl, rfl, rfl, fun other => ?_⟩
  rw [at?_put tree hplace]
  split_ifs with hother
  · rw [hother, h]
  · rfl

/-! ### Sites -/

/-- A step on the store at a site changes no other store. -/
lemma Tree.storeOf?_keep (h : tree.storeOf? site = some contents) (changed : Store) (other : Site) :
    (tree.keep site changed).storeOf? other =
      if other = site then some changed else tree.storeOf? other := by
  cases site with
  | own => cases other <;> simp [keep, storeOf?, storeAt?, at?]
  | file place =>
    have hplace := ne_nil_of_storeAt? h
    cases other with
    | own => simp [keep, storeOf?, put]
    | file other =>
      simp only [keep, storeOf?, storeAt?, at?_put tree hplace, Site.file.injEq]
      split_ifs <;> rfl

lemma Tree.keep_keep (tree : Tree) (site : Site) (first second : Store) :
    (tree.keep site first).keep site second = tree.keep site second := by
  cases site with
  | own => rfl
  | file place => exact put_put tree place _ _

lemma Tree.keeps_own (tree : Tree) (contents : Store) : Tree.Keeps tree (tree.keep .own contents) :=
  ⟨rfl, rfl, fun _ => id⟩

/-- A path leads where it led after a step on a store. -/
lemma Tree.keeps_keep (h : tree.storeOf? site = some contents) (changed : Store) :
    Tree.Keeps tree (tree.keep site changed) := by
  cases site with
  | own => exact tree.keeps_own changed
  | file place => exact keeps_put (ne_nil_of_storeAt? h) (at?_ne_directory h) _

lemma Tree.Keeps.target? (h : Tree.Keeps tree made) (path : String) :
    made.target? path = tree.target? path := by
  rw [Tree.target?, Tree.target?, h.system]

lemma Tree.Keeps.canName (h : Tree.Keeps tree made) (path : String) (place : Place) :
    made.canName path place = tree.canName path place := by
  rw [Tree.canName, Tree.canName, placesOf, placesOf, h.working]

lemma Tree.site?_eq_own_iff : tree.site? path = some .own ↔ tree.target? path = some .own := by
  unfold site?
  split
  · simp_all
  · simp_all
  · split <;> simp_all

lemma Tree.site?_eq_file_iff :
    tree.site? path = some (.file place) ↔ ∃ name, tree.target? path = some (.file name) ∧
      tree.locate name = .ok place ∧ tree.canName name place = true := by
  unfold site?
  split
  · simp_all
  · simp_all
  · split
    · simp_all
    · simp_all only [Option.ite_none_right_eq_some, Option.some.injEq, Site.file.injEq,
        Target.file.injEq, exists_eq_left', Except.ok.injEq]
      exact ⟨fun ⟨hname, hplace⟩ => ⟨hplace, hplace ▸ hname⟩,
        fun ⟨hplace, hname⟩ => ⟨hplace ▸ hname, hplace⟩⟩

/-- A path leads to the store where it has led before. -/
theorem Tree.Keeps.site? (h : Tree.Keeps tree made) (hsite : tree.site? path = some site) :
    made.site? path = some site := by
  cases site with
  | own => rw [site?_eq_own_iff, h.target?, ← site?_eq_own_iff, hsite]
  | file place =>
    obtain ⟨name, htarget, hlocate, hname⟩ := site?_eq_file_iff.mp hsite
    exact site?_eq_file_iff.mpr
      ⟨name, (h.target? path).trans htarget, h.locate hlocate, (h.canName name place).trans hname⟩

/-- A step on the store that a path leads to. -/
lemma onStore_eq {α : Type} (hsite : tree.site? path = some site)
    (hcontents : tree.storeOf? site = some contents) (step : Action α) :
    onStore path step tree = ((step contents).1, tree.keep site (step contents).2) := by
  simp only [onStore, bind_apply, get_apply, hsite, hcontents]
  rcases step contents with ⟨_ | _, changed⟩ <;> rfl

/-- Without a store at the end of the path no step is taken. -/
lemma onStore_cases (tree : Tree) (path : String) :
    (∀ {α : Type} (step : Action α), onStore path step tree = (.error .connection, tree)) ∨
      ∃ site contents, tree.site? path = some site ∧ tree.storeOf? site = some contents := by
  cases hsite : tree.site? path with
  | none => exact .inl fun step => by simp [onStore, hsite]
  | some site =>
    cases hcontents : tree.storeOf? site with
    | none => exact .inl fun step => by simp [onStore, hsite, hcontents]
    | some contents => exact .inr ⟨site, contents, rfl, hcontents⟩

lemma makeParent_eq (task : String → FileTask) (path : String) (tree : Tree) :
    makeParent task path tree =
      match parent? path with
      | none => (.ok (), tree)
      | some above =>
        match tree.makeAll above with
        | (made, some f) => (.error (.file (task above) f), made)
        | (made, none) => (.ok (), made) := by
  unfold makeParent
  cases parent? path with
  | none => rfl
  | some above =>
    simp only [bind_apply, get_apply]
    rcases tree.makeAll above with ⟨made, f | f⟩ <;> rfl

/-- The directory of a path is made before its file. -/
lemma makeAll_of_makeParent {task : String → FileTask} {above : String}
    (hparent : parent? path = some above) (h : makeParent task path tree = (.ok (), made)) :
    tree.makeAll above = (made, none) := by
  rw [makeParent_eq, hparent] at h
  cases hall : tree.makeAll above with
  | mk other fault =>
    cases fault with
    | some f =>
      simp only [hall] at h
      cases h
    | none =>
      simp only [hall] at h
      obtain ⟨-, rfl⟩ := Prod.mk.inj h
      rfl

/-- Making the directories of a path makes nothing but directories. -/
lemma grows_makeParent (task : String → FileTask) (path : String) (tree : Tree) :
    Tree.Grows tree (makeParent task path tree).2 := by
  rw [makeParent_eq]
  cases parent? path with
  | none => exact .refl tree
  | some above =>
    have hgrows := tree.grows_makeAll above
    rcases hmade : tree.makeAll above with ⟨made, f | f⟩ <;> rw [hmade] at hgrows <;>
      simpa only [hmade] using hgrows

/-- The directories of a path that leads somewhere are there. -/
lemma makeParent_of_locate (hplace : tree.locate path = .ok place) (task : String → FileTask) :
    makeParent task path tree = (.ok (), tree) := by
  rw [makeParent_eq]
  cases habove : parent? path with
  | none => rfl
  | some above =>
    have hmade : tree.makeAll above = (tree, none) := by
      by_cases hne : above = ""
      · simp [Tree.makeAll, Tree.makeDirectories, hne]
      · exact Tree.makeAll_of_isDirectory (Tree.isDirectory_parent hplace habove hne)
    simp only [hmade]

lemma openWith_apply (step : Handle → Action Unit) (path : String) (dimension : Nat)
    (tree : Tree) :
    openWith step path dimension tree =
      if dimension = 0 then (.error (.setting .zeroDimension), tree)
      else match makeParent .createDatabaseDirectory path tree with
        | (.error e, made) => (.error e, made)
        | (.ok (), made) =>
          match (if made.target? path = some .own then openOwn (step ⟨path, dimension⟩)
            else onStore path (step ⟨path, dimension⟩)) made with
          | (.error e, after) => (.error e, after)
          | (.ok (), after) => (.ok ⟨path, dimension⟩, after) := by
  unfold openWith
  split_ifs with hzero
  · rfl
  · simp only [bind_apply, get_apply]
    rcases makeParent .createDatabaseDirectory path tree with ⟨e | _, made⟩
    · rfl
    · simp only
      split_ifs
      · rw [bind_apply]
        rcases openOwn (step ⟨path, dimension⟩) made with ⟨e | _, after⟩ <;> rfl
      · rw [bind_apply]
        rcases onStore path (step ⟨path, dimension⟩) made with ⟨e | _, after⟩ <;> rfl

/-- A path that leads to a store in a file once the directories above it are made. -/
structure Reaches (tree : Tree) (path : String) (made : Tree) (place : Place) (contents : Store) :
    Prop where
  parent : makeParent .createDatabaseDirectory path tree = (.ok (), made)
  located : made.site? path = some (.file place)
  stored : made.storeAt? place = some contents

/-- A path that opens a store without a file once the directories above it are made. -/
structure Begins (tree : Tree) (path : String) (made : Tree) : Prop where
  parent : makeParent .createDatabaseDirectory path tree = (.ok (), made)
  target : made.target? path = some .own

lemma grows_of_makeParent (hparent : makeParent .createDatabaseDirectory path tree = (.ok (), made)) :
    Tree.Grows tree made := by
  have hgrows := grows_makeParent .createDatabaseDirectory path tree
  rw [hparent] at hgrows
  exact hgrows

/-- Nothing but directories is made on the way to a store. -/
lemma Reaches.grows (h : Reaches tree path made place contents) : Tree.Grows tree made :=
  grows_of_makeParent h.parent

lemma Begins.grows (h : Begins tree path made) : Tree.Grows tree made :=
  grows_of_makeParent h.parent

/-- Nothing at all is made on the way to a store that the path leads to already. -/
lemma Reaches.eq_of_locate (h : Reaches tree path made place contents) {other : Place}
    (hlocated : tree.locate path = .ok other) : made = tree := by
  have hparent := makeParent_of_locate hlocated .createDatabaseDirectory
  rw [h.parent] at hparent
  exact congrArg Prod.snd hparent

/-- Opening takes its step on the store that the path leads to. -/
theorem Reaches.openWith_eq (h : Reaches tree path made place contents) (hpositive : 0 < dimension)
    (step : Handle → Action Unit) :
    openWith step path dimension tree =
      ((step ⟨path, dimension⟩ contents).1.map fun _ => ⟨path, dimension⟩,
        made.keep (.file place) (step ⟨path, dimension⟩ contents).2) := by
  have htarget : made.target? path ≠ some .own := fun howned => by
    cases (Tree.site?_eq_own_iff.mpr howned).symm.trans h.located
  rw [openWith_apply, if_neg (Nat.ne_of_gt hpositive), h.parent]
  simp only [if_neg htarget, onStore_eq h.located h.stored]
  rcases step ⟨path, dimension⟩ contents with ⟨e | _, changed⟩ <;> rfl

/-- Opening without a file takes its step on an empty store, which is kept if the step succeeds. -/
theorem Begins.openWith_eq (h : Begins tree path made) (hpositive : 0 < dimension)
    (step : Handle → Action Unit) :
    openWith step path dimension tree =
      match step ⟨path, dimension⟩ {} with
      | (.error e, _) => (.error e, made)
      | (.ok (), contents) => (.ok ⟨path, dimension⟩, made.keep .own contents) := by
  rw [openWith_apply, if_neg (Nat.ne_of_gt hpositive), h.parent]
  simp only [if_pos h.target, openOwn]
  rcases step ⟨path, dimension⟩ {} with ⟨e | _, changed⟩ <;> rfl

/-- Opening fails and leaves new directories at most, or the path leads to a store in a file, or to
one without a file. -/
theorem openWith_cases (step : Handle → Action Unit) (path : String) (dimension : Nat)
    (tree : Tree) :
    (∃ e made, openWith step path dimension tree = (.error e, made) ∧ Tree.Grows tree made) ∨
      0 < dimension ∧ ((∃ made place contents, Reaches tree path made place contents) ∨
        ∃ made, Begins tree path made) := by
  by_cases hzero : dimension = 0
  · exact .inl ⟨_, tree, by rw [openWith_apply, if_pos hzero], .refl tree⟩
  · have hpositive := Nat.pos_of_ne_zero hzero
    have hgrows := grows_makeParent .createDatabaseDirectory path tree
    rcases hparent : makeParent .createDatabaseDirectory path tree with ⟨e | _, made⟩ <;>
      rw [hparent] at hgrows
    · exact .inl ⟨e, made, by rw [openWith_apply, if_neg hzero, hparent], hgrows⟩
    · by_cases htarget : made.target? path = some .own
      · exact .inr ⟨hpositive, .inr ⟨made, hparent, htarget⟩⟩
      · obtain hnone | ⟨site, contents, hsite, hcontents⟩ := onStore_cases made path
        · refine .inl ⟨.connection, made, ?_, hgrows⟩
          rw [openWith_apply, if_neg hzero, hparent]
          simp only [if_neg htarget, hnone]
        · cases site with
          | own => exact absurd (Tree.site?_eq_own_iff.mp hsite) htarget
          | file place => exact .inr ⟨hpositive, .inl ⟨made, place, contents, hparent, hsite, hcontents⟩⟩

end Findings.Files
