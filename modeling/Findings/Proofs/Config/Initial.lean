import Findings.Proofs.Config.RoundTrip

/-!
# Configurations for a start

A user without a configuration file has the usual configuration with the overrides of the
environment. One can be written for a start; the file then says the same, so nothing changes but
the timestamps. It is not written a second time.
-/
namespace Findings.Config

open Findings.CommandLine
open Findings.Files

variable {c : Config} {env : Environment} {account : Option String} {now path : String}
  {tree after : Tree}

/-! ### Timestamps -/

/-- The configuration with other timestamps. -/
def stampedAt (c : Config) (now : String) : Config :=
  { c with createdAt := now, lastModified := now }

/-- Variables override no timestamps. -/
lemma override_stampedAt (c : Config) (now name value : String) :
    (c.stampedAt now).override name value = (c.override name value).stampedAt now := by
  unfold override
  split <;> rfl

lemma overrideAll_stampedAt (c : Config) (now : String) (env : Environment) :
    (c.stampedAt now).overrideAll env = (c.overrideAll env).stampedAt now := by
  induction env generalizing c with
  | nil => rfl
  | cons entry env ih =>
    show ((c.stampedAt now).override entry.1 entry.2).overrideAll env =
      ((c.override entry.1 entry.2).overrideAll env).stampedAt now
    rw [override_stampedAt, ih]

/-- The rules do not look at the timestamps. -/
lemma validate_stampedAt (c : Config) (now : String) : validate (c.stampedAt now) = validate c :=
  rfl

/-- What is told of a configuration are the rules that it violates. -/
lemma exists_of_validate_eq_error {e : Error} (h : validate c = .error e) :
    ∃ violated, e = .invalidConfig violated := by
  unfold validate at h
  split at h
  case h_1 => cases h
  case h_2 => exact ⟨_, (Except.error.inj h).symm⟩

/-! ### Paths of the user -/

lemma join_ne_empty {base child : String} (hchild : child ≠ "") : join base child ≠ "" := by
  unfold join
  split_ifs <;> simp [hchild]

/-- A name that is joined to a path is at its end. -/
lemma exists_toList_join (base : String) {child : String} (hchild : isAbsolute child = false) :
    ∃ front, (join base child).toList = front ++ child.toList := by
  unfold join
  rw [hchild, if_neg Bool.false_ne_true]
  split_ifs
  · exact ⟨base.toList, String.toList_append⟩
  · exact ⟨(base ++ "/").toList, String.toList_append⟩

/-- The store of the user has a path. -/
lemma dbPath_default_ne_empty (env : Environment) (now : String) (account : Option String) :
    (default env now account).dbPath ≠ "" := by
  show (defaultDbPath env account).toOption.getD (join "findex" "findings.db") ≠ ""
  simp only [defaultDbPath]
  split
  · exact join_ne_empty (by decide)
  · exact join_ne_empty (by decide)

/-- The usual configuration keeps the rules. -/
lemma validate_default (env : Environment) (now : String) (account : Option String) :
    validate (default env now account) = .ok () := by
  have hstorage : storageRule (default env now account) = [] :=
    unlessHolds_eq_nil.mpr (by simpa using dbPath_default_ne_empty env now account)
  have hembedding : embeddingRules (default env now account) = [] := by
    have hmodel : embeddingRules ⟨"", "", "", "", Model.defaultName, 384, {}⟩ = [] := by
      decide +kernel
    exact hmodel
  have hsearch : searchRules (default env now account).search = [] := by
    show searchRules {} = []
    decide +kernel
  rw [validate_eq_ok_iff, violations, hstorage, hembedding, hsearch]
  rfl

/-- The usual configuration file is in a directory of its own. -/
lemma defaultPath_eq_ok (h : defaultPath env account = .ok path) :
    ∃ base, path.toList = base.toList ++ '/' :: "config.toml".toList ∧ base ≠ "" ∧
      trimEnd base.toList.reverse = base.toList.reverse := by
  simp only [defaultPath] at h
  split at h
  case h_1 directory _ =>
    obtain rfl := Except.ok.inj h
    have hchild : isAbsolute "findex" = false := rfl
    obtain ⟨front, hfront⟩ := exists_toList_join directory hchild
    have hne : join directory "findex" ≠ "" := join_ne_empty (by decide)
    -- the directory ends in a name, so a slash is put behind it and nothing of it is trimmed
    refine ⟨join directory "findex", ?_, hne, ?_⟩
    · have hlast : (join directory "findex").toList.getLast? = some 'x' := by
        rw [hfront, List.getLast?_append]
        rfl
      have habsolute : isAbsolute "config.toml" = false := rfl
      rw [join, habsolute, if_neg Bool.false_ne_true, hlast]
      simp [hne]
    · rw [hfront, List.reverse_append]
      exact trimEnd_of_name (by decide) (by decide) (by decide)
  case h_2 => cases h

/-! ### The file of the usual configuration -/

/-- Whether a file can be made at a path: the directory above it can be made, and no directory is
at the path then. -/
def CanCreate (path : String) (tree : Tree) : Prop :=
  ∃ above made, parent? path = some above ∧ tree.makeAll above = (made, none) ∧
    made.isDirectory path = false

lemma isFileName_config : IsFileName "config.toml" := by
  constructor <;> decide

/-- The usual configuration is saved if its file can be made. -/
lemma save_default_of_canCreate (hpath : defaultPath env account = .ok path) (now : String)
    (hcreate : CanCreate path tree) :
    ∃ after, save (default env now account) path tree = (.ok (), after) := by
  obtain ⟨base, hbelow, hbase, htrim⟩ := defaultPath_eq_ok hpath
  have hparent := parent?_below isFileName_config hbelow hbase htrim
  obtain ⟨above, made, habove, hmade, hfree⟩ := hcreate
  obtain rfl : base = above := Option.some.inj (hparent.symm.trans habove)
  have hthere := Tree.isDirectory_of_makeAll hmade hbase
  obtain ⟨place, hplace, hlocate⟩ := Tree.locate_below isFileName_config hbelow hbase hthere
    (by decide) (by decide)
  have hfile : made.at? (place ++ ["config.toml"]) ≠ some .directory := by
    intro hdirectory
    rw [Tree.isDirectory_eq_true_iff.mpr ⟨_, hlocate, hdirectory⟩] at hfree
    cases hfree
  obtain ⟨text, hwrite⟩ : ∃ text, write (default env now account) = .ok text :=
    ⟨_, write_eq_ok (isWritable_of_validate (validate_default env now account))⟩
  have hwritten := Tree.writeText_of_locate hlocate (by rwa [List.dropLast_concat]) hfile
    (namesDirectory_below isFileName_config hbelow) text
  refine ⟨made.put (place ++ ["config.toml"]) (.plain text.toUTF8), ?_⟩
  rw [save_eq, makeParent_eq, hparent]
  simp only [hmade, hwrite, hwritten]

/-- A configuration was saved to a file that can be made. -/
lemma canCreate_of_save {above : String} (hparent : parent? path = some above)
    (h : save c path tree = (.ok (), after)) : CanCreate path tree := by
  rw [save_eq] at h
  split at h
  case h_1 => cases h
  case h_2 made hmade =>
    split at h
    case h_1 => cases h
    case h_2 text _ =>
      split at h
      case h_1 => cases h
      case h_2 hwritten =>
        obtain ⟨place, hplace, hfile, -, -⟩ := Tree.writeText_eq_ok hwritten
        refine ⟨above, made, hparent, makeAll_of_makeParent hparent hmade, ?_⟩
        rw [Bool.eq_false_iff]
        intro hdirectory
        obtain ⟨place', hplace', hdirectory⟩ := Tree.isDirectory_eq_true_iff.mp hdirectory
        obtain rfl : place = place' := Except.ok.inj (hplace.symm.trans hplace')
        exact hfile hdirectory

/-- If its file cannot be made, the files refuse the usual configuration. -/
lemma save_default_of_not_canCreate (hpath : defaultPath env account = .ok path) (now : String)
    (hcreate : ¬ CanCreate path tree) :
    ∃ task f after, save (default env now account) path tree = (.error (.file task f), after) := by
  obtain ⟨base, hbelow, hbase, htrim⟩ := defaultPath_eq_ok hpath
  have hparent := parent?_below isFileName_config hbelow hbase htrim
  cases hsave : save (default env now account) path tree with
  | mk outcome after =>
    cases outcome with
    | ok => exact absurd (canCreate_of_save hparent hsave) hcreate
    | error e =>
      have hwritable := isWritable_of_validate (validate_default env now account)
      obtain ⟨task, f, rfl⟩ := file_of_save_eq_error hwritable hsave
      exact ⟨task, f, after, rfl⟩

/-! ### Commands -/

lemma effective_of_missing (hpath : defaultPath env tree.system.home = .ok path)
    (hmissing : tree.pathExists path = false) (now : String) :
    effective env now none tree =
      ((validate ((default env now tree.system.home).overrideAll env)).map fun _ =>
        (default env now tree.system.home).overrideAll env, tree) := by
  simp only [effective, hpath, bind_apply, get_apply, hmissing]
  cases validate ((default env now tree.system.home).overrideAll env) <;> rfl

lemma effective_of_exists (hpath : defaultPath env tree.system.home = .ok path)
    (hthere : tree.pathExists path = true) (now : String) :
    effective env now none tree = load env now path tree := by
  simp only [effective, hpath, bind_apply, get_apply, hthere, if_true]

lemma execute_configInit (hpath : defaultPath env tree.system.home = .ok path) (now : String)
    (verbose force : Bool) :
    execute ⟨env, now⟩ ⟨none, verbose, .configInit force⟩ tree =
      if tree.pathExists path && !force then (.error (.setting (.configExists path)), tree)
      else
        match save (default env now tree.system.home) path tree with
        | (.ok (), after) => (.ok ("✓ Configuration written to " ++ path ++ "\n"), after)
        | (.error e, after) => (.error e, after) := by
  simp only [execute, configPath, hpath, initConfig, bind_apply, get_apply, pure_apply]
  by_cases hrefused : (tree.pathExists path && !force) = true
  · rw [if_pos hrefused, if_pos hrefused]
    rfl
  · rw [if_neg hrefused, if_neg hrefused]
    cases save (default env now tree.system.home) path tree with
    | mk outcome after =>
      cases outcome with
      | error e => rfl
      | ok => simp [report]

/-- What there is for a user once the usual configuration was written to a file for him. -/
structure Initialized (env : Environment) (now path : String) (tree after : Tree) : Prop where
  /-- The file has the document of the usual configuration. -/
  text : ∃ text, write (default env now tree.system.home) = .ok text ∧ after.readText path = .ok text
  /-- The user has the same configuration as without the file, or violates the same rules. -/
  agrees : ∀ later, ∃ outcome : Except Error Config,
    effective env later none tree = (outcome, tree) ∧
    effective env later none after = (outcome.map (·.stampedAt now), after) ∧
    ∀ e, outcome = .error e → ∃ violated, e = .invalidConfig violated
  /-- Without variables of the program, the user has the usual configuration. -/
  usual : env.IsForeign → ∀ later,
    effective env later none tree = (.ok (default env later tree.system.home), tree) ∧
    effective env later none after = (.ok (default env now tree.system.home), after)
  /-- Without force it is not written again. -/
  once : ∀ later verbose, execute ⟨env, later⟩ ⟨none, verbose, .configInit false⟩ after =
    (.error (.setting (.configExists path)), after)

/-- What is saved as the usual configuration is what the user had before. -/
lemma initialized_of_save (hpath : defaultPath env tree.system.home = .ok path)
    (hmissing : tree.pathExists path = false)
    (hsave : save (default env now tree.system.home) path tree = (.ok (), after)) :
    Initialized env now path tree after := by
  obtain ⟨text, hwrite, htext⟩ := readText_of_save hsave
  have hthere := Tree.pathExists_of_readText htext
  have hpathAfter : defaultPath env after.system.home = .ok path := system_of_save hsave ▸ hpath
  -- the file has timestamps of its own, so the time of loading does not matter
  have heffective : ∀ later, effective env later none after =
      ((validate ((default env now tree.system.home).overrideAll env)).map fun _ =>
        (default env now tree.system.home).overrideAll env, after) := by
    intro later
    have hreads := (readToml?_write hwrite later).1
    rw [settled_of_validate (validate_default env now tree.system.home)] at hreads
    rw [effective_of_exists hpathAfter hthere]
    simp only [load_eq, hthere, if_true, htext, hreads]
  constructor
  case text => exact ⟨text, hwrite, htext⟩
  case agrees =>
    intro later
    refine ⟨_, effective_of_missing hpath hmissing later, ?_, ?_⟩
    · rw [heffective]
      have hstamped : (default env now tree.system.home).overrideAll env =
          ((default env later tree.system.home).overrideAll env).stampedAt now :=
        overrideAll_stampedAt (default env later tree.system.home) now env
      rw [hstamped, validate_stampedAt]
      cases validate ((default env later tree.system.home).overrideAll env) <;> rfl
    · intro e herror
      cases hvalid : validate ((default env later tree.system.home).overrideAll env) with
      | ok =>
        rw [hvalid] at herror
        cases herror
      | error fault =>
        rw [hvalid] at herror
        obtain rfl := Except.error.inj herror
        exact exists_of_validate_eq_error hvalid
  case usual =>
    intro henv later
    rw [effective_of_missing hpath hmissing, heffective]
    simp only [overrideAll_of_isForeign henv, validate_default]
    exact ⟨rfl, rfl⟩
  case once =>
    intro later verbose
    rw [execute_configInit hpathAfter, hthere]
    rfl

/-- Writing the usual configuration for a user who has none changes nothing for him but the
timestamps. It fails only if the file cannot be made. -/
theorem init_keeps_configuration {env : Environment} {path : String} {tree : Tree}
    (hpath : defaultPath env tree.system.home = .ok path) (hmissing : tree.pathExists path = false)
    (now : String) (verbose force : Bool) :
    (CanCreate path tree → ∃ after,
      execute ⟨env, now⟩ ⟨none, verbose, .configInit force⟩ tree =
        (.ok ("✓ Configuration written to " ++ path ++ "\n"), after) ∧
      Initialized env now path tree after) ∧
    (¬ CanCreate path tree → ∃ task f after,
      execute ⟨env, now⟩ ⟨none, verbose, .configInit force⟩ tree =
        (.error (.file task f), after)) := by
  rw [execute_configInit hpath, hmissing]
  constructor
  · intro hcreate
    obtain ⟨after, hsave⟩ := save_default_of_canCreate hpath now hcreate
    rw [hsave]
    exact ⟨after, rfl, initialized_of_save hpath hmissing hsave⟩
  · intro hcreate
    obtain ⟨task, f, after, hsave⟩ := save_default_of_not_canCreate hpath now hcreate
    rw [hsave]
    exact ⟨task, f, after, rfl⟩

/-- An environment with a home and with a variable that breaks a rule. -/
def zeroDimension : Environment := [("HOME", "/u"), ("FINDEX_EMBEDDING__DIMENSION", "0")]

/-- The rule is told without the file and with it. -/
theorem init_keeps_configuration_zero_dimension :
    let path := "/u/.config/findex/config.toml"
    let tree : Tree := { entries := [(["u"], .directory)], working := [] }
    let told : Except Error Config :=
      .error (.invalidConfig
        [⟨"embedding.dimension", "Embedding dimension must be greater than 0"⟩])
    defaultPath zeroDimension = .ok path ∧ tree.pathExists path = false ∧ CanCreate path tree ∧
      ∃ after, Initialized zeroDimension "now" path tree after ∧
        effective zeroDimension "later" none tree = (told, tree) ∧
        effective zeroDimension "later" none after = (told, after) := by
  intro path tree told
  have hpath : defaultPath zeroDimension = .ok path := by decide +kernel
  have hmissing : tree.pathExists path = false := by decide +kernel
  have hcreate : CanCreate path tree := by
    refine ⟨"/u/.config/findex", (tree.makeAll "/u/.config/findex").1, ?_, ?_, ?_⟩
    · decide +kernel
    · exact Prod.ext rfl (by decide +kernel)
    · decide +kernel
  obtain ⟨after, -, hafter⟩ :=
    (init_keeps_configuration hpath hmissing "now" false false).1 hcreate
  have htold : (effective zeroDimension "later" none tree).1 = told := by decide +kernel
  obtain ⟨outcome, hbefore, hagain, -⟩ := hafter.agrees "later"
  rw [hbefore] at htold
  obtain rfl : outcome = told := htold
  exact ⟨hpath, hmissing, hcreate, after, hafter, hbefore, hagain⟩

end Findings.Config
