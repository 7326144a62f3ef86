import Findings.Files.Tree
import Findings.Proofs.Files.Path

/-!
# Trees that change

Files are written and directories made, but nothing ever removes a directory. So a path that leads
to a place leads there for good, and the directory above a path that leads somewhere need not be
made.
-/
namespace Findings.Files

namespace Tree

variable {tree made before after later : Tree} {place : Place} {path : String}

/-- The root is a directory. -/
@[simp] lemma at?_nil (tree : Tree) : tree.at? [] = some .directory := rfl

/-- Something is put at a place and nowhere else. -/
theorem at?_put (tree : Tree) (hplace : place ≠ []) (entry : Entry) (other : Place) :
    (tree.put place entry).at? other = if other = place then some entry else tree.at? other := by
  by_cases hother : other = place
  · subst hother
    simp [at?, put, hplace]
  · have hsame : (fun old : Place × Entry => decide ((old.1 != place) = true ∧
        (old.1 == other) = true)) = fun old => old.1 == other := by
      funext old
      by_cases hold : old.1 = other <;> simp [hold, hother]
    rw [if_neg hother, at?, at?, put, List.find?_cons_of_neg (by simpa using Ne.symm hother),
      List.find?_filter, hsame]

/-- A later tree with the same at every place. -/
structure Same (before after : Tree) : Prop where
  working : after.working = before.working
  own : after.own = before.own
  system : after.system = before.system
  at? : ∀ place, after.at? place = before.at? place

/-- A later tree with directories more. -/
structure Grows (before after : Tree) : Prop where
  working : after.working = before.working
  own : after.own = before.own
  system : after.system = before.system
  at? : ∀ place, after.at? place = before.at? place ∨
    before.at? place = none ∧ after.at? place = some .directory

/-- A later tree with the directories of the earlier one. -/
structure Keeps (before after : Tree) : Prop where
  working : after.working = before.working
  system : after.system = before.system
  directory : ∀ place, before.at? place = some .directory → after.at? place = some .directory

lemma Same.refl (tree : Tree) : Same tree tree := ⟨rfl, rfl, rfl, fun _ => rfl⟩

lemma Same.grows (h : Same before after) : Grows before after :=
  ⟨h.working, h.own, h.system, fun place => .inl (h.at? place)⟩

lemma Grows.refl (tree : Tree) : Grows tree tree := (Same.refl tree).grows

lemma Grows.trans (h : Grows before after) (h' : Grows after later) : Grows before later := by
  refine ⟨h'.working.trans h.working, h'.own.trans h.own, h'.system.trans h.system,
    fun place => ?_⟩
  rcases h.at? place with heq | ⟨hnone, hdirectory⟩
  · rw [← heq]
    exact h'.at? place
  · refine .inr ⟨hnone, ?_⟩
    rcases h'.at? place with heq | ⟨hnone', -⟩
    · exact heq.trans hdirectory
    · rw [hdirectory] at hnone'
      cases hnone'

/-- What there was is still there. -/
lemma Grows.at?_eq_some (h : Grows before after) {entry : Entry}
    (hentry : before.at? place = some entry) : after.at? place = some entry := by
  rcases h.at? place with heq | ⟨hnone, -⟩
  · exact heq.trans hentry
  · rw [hentry] at hnone
    cases hnone

lemma Grows.keeps (h : Grows before after) : Keeps before after :=
  ⟨h.working, h.system, fun _ => h.at?_eq_some⟩

lemma Keeps.refl (tree : Tree) : Keeps tree tree := (Grows.refl tree).keeps

lemma Keeps.trans (h : Keeps before after) (h' : Keeps after later) : Keeps before later :=
  ⟨h'.working.trans h.working, h'.system.trans h.system,
    fun place hplace => h'.directory place (h.directory place hplace)⟩

/-- A file is put where there is no directory. -/
lemma keeps_put (hplace : place ≠ []) (hfile : tree.at? place ≠ some .directory) (entry : Entry) :
    Keeps tree (tree.put place entry) := by
  refine ⟨rfl, rfl, fun other hother => ?_⟩
  rw [at?_put tree hplace, if_neg]
  · exact hother
  · rintro rfl
    exact hfile hother

def next (place : Place) (name : String) : Place :=
  if name == ".." then place.dropLast else place ++ [name]

/-- A path of directories with names that are not too long leads somewhere. -/
lemma follow_cons_eq_ok_iff {start : Place} {name : String} {names : List String} :
    tree.follow start (name :: names) = .ok place ↔
      tree.at? start = some .directory ∧ (name = ".." ∨ name.utf8ByteSize ≤ maxName) ∧
        tree.follow (next start name) names = .ok place := by
  rw [follow, enter]
  rcases hstart : tree.at? start with _ | entry
  · simp [bind, Except.bind]
  · cases entry
    case directory =>
      simp only [bind, Except.bind, next, beq_iff_eq, true_and]
      by_cases hup : name = ".."
      · simp [hup]
      · by_cases hlong : maxName < name.utf8ByteSize
        · simp [hup, hlong, Nat.not_le.mpr hlong]
        · simp [hup, hlong, Nat.not_lt.mp hlong]
    all_goals simp [bind, Except.bind]

lemma Keeps.follow (h : Keeps before after) {names : List String} {start : Place}
    (hplace : before.follow start names = .ok place) : after.follow start names = .ok place := by
  induction names generalizing start with
  | nil => exact hplace
  | cons name names ih =>
    obtain ⟨hstart, hname, hrest⟩ := follow_cons_eq_ok_iff.mp hplace
    exact follow_cons_eq_ok_iff.mpr ⟨h.directory start hstart, hname, ih hrest⟩

def start (tree : Tree) (path : String) : Place := if isAbsolute path then [] else tree.working

lemma locate_eq_ok_iff :
    tree.locate path = .ok place ↔
      '\x00' ∉ path.toList ∧ path ≠ "" ∧
        tree.follow (tree.start path) (components path) = .ok place := by
  unfold locate
  by_cases hzero : '\x00' ∈ path.toList
  · simp [hzero]
  · by_cases hempty : path = "" <;> simp [hzero, hempty, start]

/-- A path leads where it has led before. -/
theorem Keeps.locate (h : Keeps before after) (hplace : before.locate path = .ok place) :
    after.locate path = .ok place := by
  obtain ⟨hzero, hempty, hfollow⟩ := locate_eq_ok_iff.mp hplace
  refine locate_eq_ok_iff.mpr ⟨hzero, hempty, ?_⟩
  rw [start, h.working]
  exact h.follow hfollow

/-- Names but for the last one lead to a directory. -/
lemma follow_append {names : List String} {name : String} {start : Place}
    (hplace : tree.follow start (names ++ [name]) = .ok place) :
    ∃ above, tree.follow start names = .ok above ∧ tree.at? above = some .directory := by
  induction names generalizing start with
  | nil => exact ⟨start, rfl, (follow_cons_eq_ok_iff.mp hplace).1⟩
  | cons first names ih =>
    obtain ⟨hstart, hname, hrest⟩ := follow_cons_eq_ok_iff.mp hplace
    obtain ⟨above, habove, hdirectory⟩ := ih hrest
    exact ⟨above, follow_cons_eq_ok_iff.mpr ⟨hstart, hname, habove⟩, hdirectory⟩

lemma isDirectory_eq_true_iff :
    tree.isDirectory path = true ↔
      ∃ place, tree.locate path = .ok place ∧ tree.at? place = some .directory := by
  unfold isDirectory lookUp
  rcases tree.locate path with f | place
  · simp [bind, Except.bind]
  · rcases hentry : tree.at? place with _ | entry
    · simp [bind, Except.bind, hentry]
    · cases entry
      case directory => simp [bind, Except.bind, hentry]
      all_goals
        simp only [bind, Except.bind, hentry]
        split_ifs <;> simp_all

/-- Names lead on from where the first of them lead, if that is a directory. -/
lemma follow_concat {names : List String} {name : String} {start above : Place}
    (habove : tree.follow start names = .ok above)
    (hdirectory : tree.at? above = some .directory)
    (hname : name = ".." ∨ name.utf8ByteSize ≤ maxName) :
    tree.follow start (names ++ [name]) = .ok (next above name) := by
  induction names generalizing start with
  | nil =>
    obtain rfl : start = above := Except.ok.inj habove
    exact follow_cons_eq_ok_iff.mpr ⟨hdirectory, hname, rfl⟩
  | cons first names ih =>
    obtain ⟨hstart, hfirst, hrest⟩ := follow_cons_eq_ok_iff.mp habove
    exact follow_cons_eq_ok_iff.mpr ⟨hstart, hfirst, ih hrest⟩

/-- The path of a file in a directory leads into the directory. -/
theorem locate_below {base name : String} (hname : IsFileName name)
    (hpath : path.toList = base.toList ++ '/' :: name.toList) (hbase : base ≠ "")
    (hdirectory : tree.isDirectory base = true) (hzero : '\x00' ∉ name.toList)
    (hshort : name.utf8ByteSize ≤ maxName) :
    ∃ above, tree.at? above = some .directory ∧ tree.locate path = .ok (above ++ [name]) := by
  obtain ⟨above, hplace, habove⟩ := isDirectory_eq_true_iff.mp hdirectory
  obtain ⟨hbaseZero, -, hfollow⟩ := locate_eq_ok_iff.mp hplace
  have hstart : tree.start path = tree.start base := by
    obtain ⟨c, rest, hcons⟩ := List.exists_cons_of_ne_nil fun hnil : base.toList = [] =>
      hbase (String.toList_inj.mp hnil)
    rw [start, start, isAbsolute, isAbsolute, hpath, hcons]
    rfl
  have hnext : next above name = above ++ [name] := if_neg (by simpa using hname.ne_up)
  refine ⟨above, habove, locate_eq_ok_iff.mpr ⟨?_, ?_, ?_⟩⟩
  · simp [hpath, hbaseZero, hzero]
  · rintro rfl
    simp at hpath
  · rw [components_below hname hpath, hstart, ← hnext]
    exact follow_concat hfollow habove (.inr hshort)

/-- The directory of a path that leads somewhere is there. -/
theorem isDirectory_parent (hplace : tree.locate path = .ok place) {above : String}
    (hparent : parent? path = some above) (hne : above ≠ "") : tree.isDirectory above = true := by
  obtain ⟨⟨name, hcomponents⟩, habsolute, hzero⟩ := components_of_parent? hparent hne
  obtain ⟨hpath, -, hfollow⟩ := locate_eq_ok_iff.mp hplace
  rw [hcomponents] at hfollow
  obtain ⟨directory, hdirectory, hentry⟩ := follow_append hfollow
  refine isDirectory_eq_true_iff.mpr ⟨directory, ?_, hentry⟩
  refine locate_eq_ok_iff.mpr ⟨fun hmem => hpath (hzero hmem), hne, ?_⟩
  rw [start, habsolute]
  exact hdirectory

/-- A sequence gives a value if both of its parts do. -/
lemma bind_eq_ok_iff {ε α β : Type} {x : Except ε α} {f : α → Except ε β} {b : β} :
    x >>= f = .ok b ↔ ∃ a, x = .ok a ∧ f a = .ok b := by
  cases x <;> simp [bind, Except.bind]

lemma makeDirectory_eq_ok (h : tree.makeDirectory path = .ok made) :
    ∃ place, tree.locate path = .ok place ∧ tree.at? place = none ∧
      made = tree.put place .directory := by
  obtain ⟨place, hplace, h⟩ := bind_eq_ok_iff.mp h
  obtain ⟨-, -, h⟩ := bind_eq_ok_iff.mp h
  split at h
  · cases h
  · exact ⟨place, hplace, ‹_›, (Except.ok.inj h).symm⟩

/-- A new directory is all that is new. -/
lemma grows_makeDirectory (h : tree.makeDirectory path = .ok made) : Grows tree made := by
  obtain ⟨place, -, hnone, rfl⟩ := makeDirectory_eq_ok h
  have hplace : place ≠ [] := by
    rintro rfl
    cases hnone
  refine ⟨rfl, rfl, rfl, fun other => ?_⟩
  rw [at?_put tree hplace]
  split_ifs with hother
  · exact .inr ⟨hother ▸ hnone, rfl⟩
  · exact .inl rfl

lemma grows_ensureDirectory (h : tree.ensureDirectory path = .ok made) : Grows tree made := by
  unfold ensureDirectory at h
  split at h
  · obtain rfl := Except.ok.inj h
    exact grows_makeDirectory ‹_›
  · split_ifs at h
    obtain rfl := Except.ok.inj h
    exact .refl tree

/-- A directory that is there is not made. -/
lemma ensureDirectory_of_isDirectory (h : tree.isDirectory path = true) :
    tree.ensureDirectory path = .ok tree := by
  unfold ensureDirectory
  cases hmade : tree.makeDirectory path with
  | ok made =>
    obtain ⟨place, hplace, hnone, -⟩ := makeDirectory_eq_ok hmade
    obtain ⟨place', hplace', hdirectory⟩ := isDirectory_eq_true_iff.mp h
    obtain rfl : place = place' := Except.ok.inj (hplace.symm.trans hplace')
    rw [hnone] at hdirectory
    cases hdirectory
  | error f => simp [h]

/-- A directory that is ensured is there. -/
lemma isDirectory_of_ensureDirectory (h : tree.ensureDirectory path = .ok made) :
    made.isDirectory path = true := by
  unfold ensureDirectory at h
  split at h
  · obtain rfl := Except.ok.inj h
    obtain ⟨place, hplace, hnone, rfl⟩ := makeDirectory_eq_ok ‹_›
    have hne : place ≠ [] := by
      rintro rfl
      cases hnone
    have hkeeps : Keeps tree (tree.put place .directory) :=
      keeps_put hne (by simp [hnone]) _
    refine isDirectory_eq_true_iff.mpr ⟨place, hkeeps.locate hplace, ?_⟩
    rw [at?_put tree hne, if_pos rfl]
  · split_ifs at h with hthere
    obtain rfl := Except.ok.inj h
    exact hthere

/-- Directories are all that is new, also when the last one cannot be made. -/
lemma grows_makeDirectories (tree : Tree) (fuel : Nat) (path : String) :
    Grows tree (tree.makeDirectories fuel path).1 := by
  induction fuel generalizing tree path with
  | zero => exact .refl _
  | succ fuel ih =>
    rw [makeDirectories]
    split_ifs
    · exact .refl _
    · split
      case h_1 made hmade => exact grows_ensureDirectory hmade
      case h_2 =>
        -- the directories above come first
        split
        case h_1 => exact .refl _
        case h_2 above _ =>
          have habove := ih tree above
          rcases hmade : tree.makeDirectories fuel above with ⟨made, f | f⟩ <;>
            rw [hmade] at habove
          · cases hlast : made.ensureDirectory path with
            | ok last => simpa only [hlast] using habove.trans (grows_ensureDirectory hlast)
            | error f => simpa only [hlast] using habove
          · exact habove
      case h_3 => exact .refl _

lemma grows_makeAll (tree : Tree) (path : String) : Grows tree (tree.makeAll path).1 :=
  grows_makeDirectories tree _ path

/-- A directory that was made without a fault is there. -/
theorem isDirectory_of_makeAll (h : tree.makeAll path = (made, none)) (hne : path ≠ "") :
    made.isDirectory path = true := by
  rw [makeAll, makeDirectories, if_neg (by simpa using hne)] at h
  -- either it is made at once, or after the directories above it
  split at h
  case h_1 =>
    obtain ⟨rfl, -⟩ := Prod.mk.inj h
    exact isDirectory_of_ensureDirectory ‹_›
  case h_2 =>
    split at h
    case h_1 => cases h
    case h_2 =>
      split at h
      case h_1 => cases h
      case h_2 =>
        split at h
        case h_1 =>
          obtain ⟨rfl, -⟩ := Prod.mk.inj h
          exact isDirectory_of_ensureDirectory ‹_›
        case h_2 => cases h
  case h_3 => cases h

/-- Nothing is made if the directory is there. -/
lemma makeAll_of_isDirectory (h : tree.isDirectory path = true) :
    tree.makeAll path = (tree, none) := by
  rw [makeAll, makeDirectories, ensureDirectory_of_isDirectory h]
  split_ifs <;> rfl

/-! ### Texts -/

lemma lookUp_eq (hplace : tree.locate path = .ok place) {bytes : ByteArray}
    (hentry : tree.at? place = some (.plain bytes)) (hname : namesDirectory path = false) :
    tree.lookUp path = .ok (.plain bytes) := by
  rw [lookUp, hplace]
  simp [bind, Except.bind, hentry, hname]

/-- What a path led to it still leads to. -/
lemma Grows.lookUp (h : Grows before after) {entry : Entry}
    (hentry : before.lookUp path = .ok entry) : after.lookUp path = .ok entry := by
  obtain ⟨place, hplace, hfound⟩ := bind_eq_ok_iff.mp hentry
  refine bind_eq_ok_iff.mpr ⟨place, h.keeps.locate hplace, ?_⟩
  cases hbefore : before.at? place with
  | none =>
    rw [hbefore] at hfound
    cases hfound
  | some found =>
    rw [hbefore] at hfound
    rw [h.at?_eq_some hbefore]
    exact hfound

/-- A file that was there is read as before. -/
lemma Grows.readText (h : Grows before after) {text : String}
    (hread : before.readText path = .ok text) : after.readText path = .ok text := by
  obtain ⟨entry, hentry, htext⟩ := bind_eq_ok_iff.mp hread
  exact bind_eq_ok_iff.mpr ⟨entry, h.lookUp hentry, htext⟩

/-- The text of a file is put at the place that its path leads to. -/
lemma writeText_eq_ok {text : String} (h : tree.writeText path text = .ok made) :
    ∃ place, tree.locate path = .ok place ∧ tree.at? place ≠ some .directory ∧
      namesDirectory path = false ∧ made = tree.put place (.plain text.toUTF8) := by
  obtain ⟨place, hplace, h⟩ := bind_eq_ok_iff.mp h
  obtain ⟨-, -, h⟩ := bind_eq_ok_iff.mp h
  refine ⟨place, hplace, ?_⟩
  split at h
  case h_1 => cases h
  case h_2 entry hentry hfile =>
    split_ifs at h with hname
    refine ⟨fun hdirectory => ?_, by simpa using hname, (Except.ok.inj h).symm⟩
    exact hentry (Option.some.inj (hfile.symm.trans hdirectory))
  case h_3 hnone =>
    split_ifs at h with hdot hname
    exact ⟨fun hdirectory => (by cases hnone.symm.trans hdirectory), by simpa using hname,
      (Except.ok.inj h).symm⟩

/-- A text is written to a file in a directory that is there. -/
lemma writeText_of_locate (hplace : tree.locate path = .ok place)
    (habove : tree.at? place.dropLast = some .directory)
    (hfile : tree.at? place ≠ some .directory) (hname : namesDirectory path = false)
    (text : String) : tree.writeText path text = .ok (tree.put place (.plain text.toUTF8)) := by
  have hdot : endsInDot path = false := by
    simp only [namesDirectory, Bool.or_eq_false_iff] at hname
    exact hname.2
  simp only [writeText, hplace, enter, habove, bind, Except.bind]
  split
  · exact absurd ‹_› hfile
  · rw [hname, if_neg (by decide)]
  · rw [hdot, hname, if_neg (by decide), if_neg (by decide)]

lemma lookUp_writeText {text : String} (h : tree.writeText path text = .ok made) :
    made.lookUp path = .ok (.plain text.toUTF8) := by
  obtain ⟨place, hplace, hfile, hname, rfl⟩ := writeText_eq_ok h
  have hne : place ≠ [] := by
    rintro rfl
    exact hfile rfl
  refine lookUp_eq ((keeps_put hne hfile _).locate hplace) ?_ hname
  rw [at?_put tree hne, if_pos rfl]

/-- A file that is read is there. -/
lemma pathExists_of_readText {text : String} (h : tree.readText path = .ok text) :
    tree.pathExists path = true := by
  obtain ⟨entry, hentry, -⟩ := bind_eq_ok_iff.mp h
  rw [pathExists, hentry]
  rfl

/-- A text that was written is read. -/
theorem readText_writeText {text : String} (h : tree.writeText path text = .ok made) :
    made.readText path = .ok text := by
  have hread : String.fromUTF8? text.toUTF8 = some text := dif_pos text.isValidUTF8
  rw [readText, lookUp_writeText h]
  simp only [bind, Except.bind, hread]

end Tree

end Findings.Files
