import Findings.CommandLine.Run
import Findings.Proofs.Config.Validation
import Findings.Proofs.Files.Opening

/-!
# Configurations in files

A configuration that was saved is loaded as it was, if it keeps the rules, and refused with the
rules that it violates otherwise. One with a size that cannot be written is not saved, and the file
that it would have replaced is left alone.
-/
namespace Findings.Config

open Findings.CommandLine
open Findings.Files
open Findings.Number

variable {c : Config} {env : Environment} {now path text : String} {tree made after : Tree}

/-! ### Variables -/

/-- No variable of an environment is one of the program's. -/
def Environment.IsForeign (env : Environment) : Prop :=
  ∀ entry ∈ env, ¬ "FINDEX_".toList <+: entry.1.toList

lemma override_of_foreign {name : String} (h : ¬ "FINDEX_".toList <+: name.toList)
    (c : Config) (value : String) : c.override name value = c := by
  unfold override
  split
  case h_6 => rfl
  all_goals exact absurd (by decide) h

lemma overrideAll_of_isForeign (h : env.IsForeign) (c : Config) : c.overrideAll env = c := by
  induction env with
  | nil => rfl
  | cons entry env ih =>
    obtain ⟨hentry, hlater⟩ := List.forall_mem_cons.mp h
    rw [overrideAll, List.foldl_cons, override_of_foreign hentry]
    exact ih hlater

/-! ### Loading -/

lemma load_eq (env : Environment) (now path : String) (tree : Tree) :
    load env now path tree =
      if tree.pathExists path then
        match tree.readText path with
        | .error f => (.error (.file (.readConfig path) f), tree)
        | .ok text =>
          match readToml? now text with
          | none => (.error .configSyntax, tree)
          | some c => ((validate (c.overrideAll env)).map fun _ => c.overrideAll env, tree)
      else (.error (.configMissing path), tree) := by
  simp only [load, bind_apply, get_apply]
  cases tree.pathExists path with
  | false => rfl
  | true =>
    cases htext : tree.readText path with
    | error f => simp
    | ok text =>
      simp only [Bool.not_true, Bool.false_eq_true, if_false, if_true]
      cases readToml? now text with
      | none => rfl
      | some c => cases hvalid : validate (c.overrideAll env) <;> simp [hvalid, Except.map]

/-- A file with the document of a configuration is loaded as that configuration, if it keeps the
rules. -/
lemma load_of_reads (henv : env.IsForeign) (htext : tree.readText path = .ok text)
    (hreads : readToml? now text = some c.settled) :
    load env now path tree = ((validate c).map fun _ => c, tree) := by
  simp only [load_eq, Tree.pathExists_of_readText htext, if_true, htext, hreads,
    overrideAll_of_isForeign henv, validate_settled]
  cases hvalid : validate c with
  | error e => rfl
  | ok =>
    rw [settled_of_validate hvalid]

lemma validate_of_map (read : Config) (h : ((validate read).map fun _ => read) = .ok c) :
    validate c = .ok () := by
  cases hvalid : validate read with
  | error e =>
    rw [hvalid] at h
    cases h
  | ok =>
    rw [hvalid] at h
    obtain rfl := Except.ok.inj h
    exact hvalid

/-- What is loaded keeps the rules. -/
lemma validate_of_load (h : load env now path tree = (.ok c, after)) : validate c = .ok () := by
  rw [load_eq] at h
  split_ifs at h with hthere
  case neg => cases h
  split at h
  · cases h
  · split at h
    · cases h
    · exact validate_of_map _ (congrArg Prod.fst h)

/-- The configuration of a user keeps the rules. -/
lemma validate_of_effective {given : Option String}
    (h : effective env now given tree = (.ok c, after)) : validate c = .ok () := by
  unfold effective at h
  cases given with
  | some path => exact validate_of_load h
  | none =>
    let config := (default env now tree.system.home).overrideAll env
    simp only [bind_apply, get_apply] at h
    cases hpath : defaultPath env tree.system.home with
    | error e =>
      rw [hpath] at h
      cases h
    | ok path =>
      simp only [hpath] at h
      split_ifs at h
      · exact validate_of_load h
      · refine validate_of_map config (Eq.trans ?_ (congrArg Prod.fst h))
        cases validate config <;> rfl

/-! ### Saving -/

lemma save_eq (c : Config) (path : String) (tree : Tree) :
    save c path tree =
      match makeParent .createConfigDirectory path tree with
      | (.error e, made) => (.error e, made)
      | (.ok (), made) =>
        match write c with
        | .error e => (.error e, made)
        | .ok text =>
          match made.writeText path text with
          | .error f => (.error (.file (.writeConfig path) f), made)
          | .ok after => (.ok (), after) := by
  simp only [save, bind_apply]
  rcases makeParent .createConfigDirectory path tree with ⟨e | ⟨⟩, made⟩
  · rfl
  · cases hwrite : write c with
    | error e => rfl
    | ok text =>
      simp only [bind_apply, get_apply]
      cases made.writeText path text <;> rfl

/-- What was saved is in the file. -/
lemma readText_of_save (h : save c path tree = (.ok (), after)) :
    ∃ text, write c = .ok text ∧ after.readText path = .ok text := by
  rw [save_eq] at h
  split at h
  · cases h
  · split at h
    · cases h
    · split at h
      · cases h
      · obtain rfl := congrArg Prod.snd h
        exact ⟨_, ‹_›, Tree.readText_writeText ‹_›⟩

/-- Saving does not move the home of the user. -/
lemma system_of_save (h : save c path tree = (.ok (), after)) : after.system = tree.system := by
  rw [save_eq] at h
  have hgrows := grows_makeParent .createConfigDirectory path tree
  split at h
  case h_1 => cases h
  case h_2 made hmade =>
    rw [hmade] at hgrows
    split at h
    case h_1 => cases h
    case h_2 =>
      split at h
      case h_1 => cases h
      case h_2 hwritten =>
        obtain ⟨place, -, -, -, rfl⟩ := Tree.writeText_eq_ok hwritten
        obtain ⟨-, rfl⟩ := Prod.mk.inj h
        exact hgrows.system

/-- The fault of making the directory of a path, if there is one. -/
def directoryFault? (path : String) (tree : Tree) : Option Error :=
  (parent? path).bind fun above =>
    (tree.makeAll above).2.map fun f => .file (.createConfigDirectory above) f

lemma directoryFault?_eq_some {e : Error} (h : directoryFault? path tree = some e) :
    ∃ above f, e = .file (.createConfigDirectory above) f := by
  obtain ⟨above, -, h⟩ := Option.bind_eq_some_iff.mp h
  obtain ⟨f, -, rfl⟩ := Option.map_eq_some_iff.mp h
  exact ⟨above, f, rfl⟩

/-- The directory of a file is there, or it is made, or there is a fault. -/
lemma makeParent_eq_directoryFault? (path : String) (tree : Tree) :
    ∃ made, Tree.Grows tree made ∧ makeParent .createConfigDirectory path tree =
      (match directoryFault? path tree with
        | some e => .error e
        | none => .ok (), made) := by
  refine ⟨_, grows_makeParent .createConfigDirectory path tree, Prod.ext ?_ rfl⟩
  rw [makeParent_eq, directoryFault?]
  cases parent? path with
  | none => rfl
  | some above => rcases h : tree.makeAll above with ⟨made, f | f⟩ <;> simp [h]

/-! ### Showing -/

/-- What is shown is the document of the configuration of the user. -/
lemma execute_configShow {setting : Setting} {i : Invocation} (hcommand : i.command = .configShow)
    (h : effective setting.env setting.now i.config tree = (.ok c, after)) :
    ∃ text, write c = .ok text ∧ execute setting i tree = (.ok (text ++ "\n"), after) := by
  refine ⟨_, write_eq_ok (isWritable_of_validate (validate_of_effective h)), ?_⟩
  rw [execute, hcommand]
  simp only [bind_apply, h, write_eq_ok (isWritable_of_validate (validate_of_effective h)),
    pure_apply, report]
  simp

/-! ### The round trip -/

/-- What becomes of a configuration that is saved to a file. -/
structure Saving (c : Config) (path : String) (tree : Tree) : Prop where
  /-- The document of a configuration with sizes that can be written is read as that
  configuration. -/
  reads : c.IsWritable → ∃ text, write c = .ok text ∧ ∀ now, readToml? now text = some c.settled
  /-- What was saved is in the file and is loaded as it was, if it keeps the rules; otherwise the
  rules that it violates are told. -/
  loads : ∀ after, save c path tree = (.ok (), after) →
    (∃ text, write c = .ok text ∧ after.readText path = .ok text) ∧
      ∀ (env : Environment) now, env.IsForeign →
        load env now path after = ((validate c).map fun _ => c, after)
  /-- With sizes that can be written it is saved to a file in a directory that is there. -/
  saves : c.IsWritable → ∀ place, tree.locate path = .ok place →
    tree.at? place.dropLast = some .directory → tree.at? place ≠ some .directory →
    namesDirectory path = false → (save c path tree).1 = .ok ()
  /-- With sizes that can be written, only the files refuse it. -/
  refused : c.IsWritable → ∀ e after, save c path tree = (.error e, after) →
    ∃ task f, e = .file task f
  /-- A size that cannot be written is told, unless the directory of the file cannot be made. -/
  tooLarge : ¬ c.IsWritable →
    (save c path tree).1 = .error ((directoryFault? path tree).getD .configTooLarge)
  /-- With a size that cannot be written, nothing but missing directories is made. -/
  kept : ¬ c.IsWritable → Tree.Grows tree (save c path tree).2 ∧
    ∀ text, tree.readText path = .ok text → (save c path tree).2.readText path = .ok text

/-- What becomes of a configuration that is shown. -/
structure Showing (setting : Setting) (i : Invocation) (tree : Tree) : Prop where
  /-- The text is read as the configuration of the user, and in a file it is loaded as that. -/
  reads : ∀ c after, effective setting.env setting.now i.config tree = (.ok c, after) →
    ∃ text, execute setting i tree = (.ok text, after) ∧
      (∀ now, readToml? now text = some c) ∧
      ∀ (env : Environment) now path files, env.IsForeign → files.readText path = .ok text →
        load env now path files = (.ok c, files)
  /-- Without a configuration nothing is shown. -/
  refused : ∀ e after, effective setting.env setting.now i.config tree = (.error e, after) →
    execute setting i tree = (.error e, after)

theorem showing {setting : Setting} {i : Invocation} (hcommand : i.command = .configShow)
    (tree : Tree) : Showing setting i tree where
  reads c after h := by
    obtain ⟨text, hwrite, hshow⟩ := execute_configShow hcommand h
    have hvalid := validate_of_effective h
    refine ⟨_, hshow, fun now => ?_, fun env now path files henv htext => ?_⟩
    · rw [(readToml?_write hwrite now).2, settled_of_validate hvalid]
    · rw [load_of_reads henv htext (readToml?_write hwrite now).2, hvalid]
      rfl
  refused e after h := by
    rw [execute, hcommand]
    simp only [bind_apply, h]

lemma save_of_tooLarge (hlarge : ¬ c.IsWritable) (path : String) (tree : Tree) :
    (save c path tree).1 = .error ((directoryFault? path tree).getD .configTooLarge) ∧
      Tree.Grows tree (save c path tree).2 := by
  obtain ⟨made, hgrows, hmade⟩ := makeParent_eq_directoryFault? path tree
  rw [save_eq, hmade, write_eq_error hlarge]
  cases directoryFault? path tree with
  | none => exact ⟨rfl, hgrows⟩
  | some e => exact ⟨rfl, hgrows⟩

/-- A configuration that can be written is refused by the files only. -/
lemma file_of_save_eq_error (hsizes : c.IsWritable) {e : Error}
    (h : save c path tree = (.error e, after)) : ∃ task f, e = .file task f := by
  obtain ⟨made, -, hmade⟩ := makeParent_eq_directoryFault? path tree
  rw [save_eq, hmade, write_eq_ok hsizes] at h
  cases hdirectory : directoryFault? path tree with
  | some fault =>
    rw [hdirectory] at h
    obtain rfl := Except.error.inj (congrArg Prod.fst h)
    obtain ⟨above, f, rfl⟩ := directoryFault?_eq_some hdirectory
    exact ⟨_, f, rfl⟩
  | none =>
    simp only [hdirectory] at h
    split at h
    · rename_i f _
      obtain rfl := Except.error.inj (congrArg Prod.fst h)
      exact ⟨_, f, rfl⟩
    · cases h

theorem saving (c : Config) (path : String) (tree : Tree) : Saving c path tree where
  reads hsizes := ⟨_, write_eq_ok hsizes, fun now => (readToml?_write (write_eq_ok hsizes) now).1⟩
  loads after h := by
    obtain ⟨text, hwrite, htext⟩ := readText_of_save h
    exact ⟨⟨text, hwrite, htext⟩, fun env now henv =>
      load_of_reads henv htext (readToml?_write hwrite now).1⟩
  saves hsizes place hplace habove hfile hname := by
    rw [save_eq, makeParent_of_locate hplace, write_eq_ok hsizes]
    simp only [Tree.writeText_of_locate hplace habove hfile hname]
  refused hsizes e after := file_of_save_eq_error hsizes
  tooLarge hlarge := (save_of_tooLarge hlarge path tree).1
  kept hlarge := by
    have hgrows := (save_of_tooLarge hlarge path tree).2
    exact ⟨hgrows, fun text => hgrows.readText⟩

/-- Every configuration comes back from the file that it was saved to and from the text that shows
it, and one that cannot be written changes no file. -/
theorem saving_and_showing :
    (∀ (c : Config) path tree, Saving c path tree) ∧
      ∀ (setting : Setting) (i : Invocation) tree, i.command = .configShow →
        Showing setting i tree :=
  ⟨saving, fun _ _ tree hcommand => showing hcommand tree⟩

/-- A configuration with quotes, line ends and other control characters in a path is saved, loaded
and shown. -/
theorem saving_and_showing_odd_path :
    let c : Config := { default [] "now" with dbPath := "a\"b\\c\n'''\r\x00" }
    let saved := save c "c.toml" (.bare [])
    saved.1 = .ok () ∧ load [] "later" "c.toml" saved.2 = (.ok c, saved.2) ∧
      ∃ text, execute ⟨[], "later"⟩ ⟨some "c.toml", false, .configShow⟩ saved.2 =
        (.ok text, saved.2) ∧ readToml? "later" text = some c := by
  intro c saved
  have hsaving := saving_and_showing.1 c "c.toml" (.bare [])
  have hsizes : c.IsWritable := ⟨by decide, by decide, by decide⟩
  have hsaved : saved.1 = .ok () :=
    hsaving.saves hsizes ["c.toml"] rfl rfl (fun hdirectory => by cases hdirectory) rfl
  have hvalid : validate c = .ok () := by decide +kernel
  have hload : load [] "later" "c.toml" saved.2 = (.ok c, saved.2) := by
    obtain ⟨-, hloads⟩ := hsaving.loads saved.2 (Prod.ext hsaved rfl)
    rw [hloads [] "later" fun _ hentry => absurd hentry List.not_mem_nil, hvalid]
    rfl
  have hshowing := saving_and_showing.2 ⟨[], "later"⟩ ⟨some "c.toml", false, .configShow⟩ saved.2 rfl
  obtain ⟨text, htext, hreads, -⟩ := hshowing.reads c saved.2 hload
  exact ⟨hsaved, hload, text, htext, hreads "later"⟩

/-- With a file in the place of its directory, that is told of a configuration that cannot be
written, and not that it is too large. -/
theorem save_tooLarge_below_file :
    let c : Config := ⟨"1.0.0", "a", "b", "x", "all-MiniLM-L6-v2", signedCount, {}⟩
    let files : Tree := { entries := [(["file"], .plain ⟨#[]⟩)], working := [] }
    signedCount ≤ c.dimension ∧
      (save c "file/x.toml" files).1 =
        .error (.file (.createConfigDirectory "file") .exists) ∧
      (save c "file/x.toml" files).1 ≠ .error .configTooLarge := by
  decide +kernel

end Findings.Config
