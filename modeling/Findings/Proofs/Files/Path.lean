import Findings.Files.Path
import Mathlib.Data.List.TakeWhile
import Mathlib.Tactic.Common

/-!
# The directory of a path

The directory that holds a path is found on the text of the path, from its end, while files are
found by the components of a path, from its begin. Both agree: the components of the directory are
those of the path but for the last one.
-/
namespace Findings.Files

/-- The components that the characters of a path spell. -/
def componentsOf (path : List Char) : List String :=
  ((splitSlashes path).map String.ofList).filter fun name => name != "" && name != "."

lemma splitSlashes_ne_nil (path : List Char) : splitSlashes path ≠ [] := by
  fun_cases splitSlashes path <;> simp

/-- What is split before a slash and after it is split at the slash. -/
lemma splitSlashes_append (first later : List Char) :
    splitSlashes (first ++ '/' :: later) = splitSlashes first ++ splitSlashes later := by
  fun_induction splitSlashes first with
  | case1 => rfl
  | case2 rest ih => simp [splitSlashes, ih]
  | case3 c rest hslash part parts hparts ih =>
    rw [List.cons_append, splitSlashes, ih, hparts]
    · rfl
    · exact hslash
  | case4 c rest hslash hnone => exact absurd hnone (splitSlashes_ne_nil rest)

/-- A name without a slash is not split. -/
lemma splitSlashes_of_notMem {name : List Char} (h : '/' ∉ name) : splitSlashes name = [name] := by
  induction name with
  | nil => rfl
  | cons c name ih =>
    obtain ⟨hc, hname⟩ := List.ne_and_not_mem_of_not_mem_cons h
    rw [splitSlashes, ih hname]
    exact fun heq => hc heq.symm

lemma componentsOf_append (first later : List Char) :
    componentsOf (first ++ '/' :: later) = componentsOf first ++ componentsOf later := by
  simp only [componentsOf, splitSlashes_append, List.map_append, List.filter_append]

/-- Slashes and dots at the end of a path are no components. -/
lemma componentsOf_trimEnd (reversed : List Char) :
    componentsOf (trimEnd reversed).reverse = componentsOf reversed.reverse := by
  fun_induction trimEnd reversed with
  | case1 rest ih =>
    rw [ih, List.reverse_cons, componentsOf_append]
    exact (List.append_nil _).symm
  | case2 rest ih =>
    rw [ih, List.reverse_cons, List.reverse_cons, List.reverse_cons, List.append_assoc,
      componentsOf_append]
    exact (componentsOf_append rest.reverse ['.']).symm
  | case3 => rfl

lemma trimEnd_suffix (reversed : List Char) : trimEnd reversed <:+ reversed := by
  fun_induction trimEnd reversed with
  | case1 rest ih => exact ih.trans (List.suffix_cons _ _)
  | case2 rest ih => exact ih.trans (List.suffix_cons _ _)
  | case3 => exact List.suffix_refl _

/-- What is left after trimming does not end in a slash, nor in a dot behind a slash. -/
lemma trimEnd_ne (reversed rest : List Char) :
    trimEnd reversed ≠ '/' :: rest ∧ trimEnd reversed ≠ '.' :: '/' :: rest := by
  fun_induction trimEnd reversed with
  | case1 _ ih => exact ih
  | case2 _ ih => exact ih
  | case3 reversed hslash hdot => exact ⟨hslash rest, hdot rest⟩

/-- The last component of a trimmed path with a slash is what comes after the last slash. -/
lemma componentsOf_below {reversed name above : List Char}
    (htrim : trimEnd reversed = name ++ '/' :: above) (hslash : '/' ∉ name) :
    componentsOf reversed.reverse =
      componentsOf above.reverse ++ [String.ofList name.reverse] := by
  have hempty : String.ofList name.reverse ≠ "" := by
    intro heq
    have hnil : name.reverse = [] := String.ofList_inj.mp heq
    rw [List.reverse_eq_nil_iff.mp hnil] at htrim
    exact (trimEnd_ne reversed above).1 htrim
  have hdot : String.ofList name.reverse ≠ "." := by
    intro heq
    have hsingle : name.reverse = ['.'] := String.ofList_inj.mp heq
    rw [List.reverse_eq_iff.mp hsingle] at htrim
    exact (trimEnd_ne reversed above).2 htrim
  have hlast : componentsOf name.reverse = [String.ofList name.reverse] := by
    have hsplit : splitSlashes name.reverse = [name.reverse] :=
      splitSlashes_of_notMem fun hmem => hslash (List.mem_reverse.mp hmem)
    simp [componentsOf, hsplit, hempty, hdot]
  rw [← componentsOf_trimEnd, htrim, List.reverse_append, List.reverse_cons, List.append_assoc]
  exact (componentsOf_append above.reverse name.reverse).trans (congrArg _ hlast)

/-- A directory with a name ends where the last slash of the path is. -/
lemma parent?_cases {path above : String} (h : parent? path = some above) (hne : above ≠ "") :
    ∃ name up, trimEnd path.toList.reverse = name ++ '/' :: up ∧ '/' ∉ name ∧
      (above = "/" ∧ isAbsolute path = true ∧ trimEnd ('/' :: up) = [] ∨
        above = String.ofList (trimEnd ('/' :: up)).reverse) := by
  let last := trimEnd path.toList.reverse
  have hwhole : last = last.takeWhile (· != '/') ++ last.dropWhile (· != '/') :=
    List.takeWhile_append_dropWhile.symm
  have hslash : '/' ∉ last.takeWhile (· != '/') := fun hmem => by
    simpa using List.mem_takeWhile_imp hmem
  simp only [parent?] at h
  cases hrest : last.dropWhile (· != '/') with
  | nil =>
    simp only [last] at hrest
    simp only [hrest, trimEnd] at h
    split_ifs at h
    · simp_all
    · exact absurd (Option.some.inj h).symm hne
  | cons c up =>
    obtain rfl : c = '/' := by
      simpa [hrest] using List.head_dropWhile_not (l := last) (· != '/') (by simp [hrest])
    refine ⟨_, up, hrest ▸ hwhole, hslash, ?_⟩
    simp only [last] at hrest
    simp only [hrest] at h
    split_ifs at h with hroot hshort
    · simp only [Bool.and_eq_true, List.isEmpty_iff] at hshort
      exact .inl ⟨(Option.some.inj h).symm, hshort.2, hshort.1.1⟩
    · exact .inr (Option.some.inj h).symm

/-- A path below a directory has one component more than the directory. -/
theorem components_of_parent? {path above : String} (h : parent? path = some above)
    (hne : above ≠ "") :
    (∃ name, components path = components above ++ [name]) ∧
      isAbsolute above = isAbsolute path ∧
      ('\x00' ∈ above.toList → '\x00' ∈ path.toList) := by
  obtain ⟨name, up, hlast, hslash, habove⟩ := parent?_cases h hne
  have hpath : components path = componentsOf up.reverse ++ [String.ofList name.reverse] := by
    have := componentsOf_below hlast hslash
    rwa [List.reverse_reverse] at this
  have hkept : componentsOf (trimEnd ('/' :: up)).reverse = componentsOf up.reverse := by
    rw [componentsOf_trimEnd, List.reverse_cons, componentsOf_append]
    exact List.append_nil _
  obtain ⟨rfl, habsolute, hnil⟩ | rfl := habove
  · rw [hnil] at hkept
    refine ⟨⟨_, hpath.trans (congrArg (· ++ _) hkept.symm)⟩, habsolute.symm, fun hmem => ?_⟩
    simp at hmem
  · have hbegin : (trimEnd ('/' :: up)).reverse <+: path.toList := by
      rw [← List.reverse_suffix, List.reverse_reverse]
      refine ((trimEnd_suffix _).trans ?_).trans (trimEnd_suffix path.toList.reverse)
      rw [hlast]
      exact List.suffix_append _ _
    refine ⟨⟨_, hpath.trans (congrArg (· ++ _) ?_)⟩, ?_, fun hmem => ?_⟩
    · rw [components, String.toList_ofList]
      exact hkept.symm
    · have hkeptNe : (trimEnd ('/' :: up)).reverse ≠ [] := fun hnil => hne (congrArg _ hnil)
      obtain ⟨rest, hrest⟩ := hbegin
      obtain ⟨c, cs, hcons⟩ := List.exists_cons_of_ne_nil hkeptNe
      rw [isAbsolute, isAbsolute, String.toList_ofList, ← hrest, hcons]
      rfl
    · rw [String.toList_ofList] at hmem
      exact hbegin.subset hmem

/-! ### Files in a directory -/

/-- A name of a file: no slash is in it, and it is not one of the names that lead elsewhere. -/
structure IsFileName (name : String) : Prop where
  slash : '/' ∉ name.toList
  ne_empty : name ≠ ""
  ne_dot : name ≠ "."
  ne_up : name ≠ ".."

lemma IsFileName.toList_ne_nil {name : String} (h : IsFileName name) : name.toList ≠ [] :=
  fun hnil => h.ne_empty (String.toList_inj.mp hnil)

lemma IsFileName.toList_ne_dot {name : String} (h : IsFileName name) : name.toList ≠ ['.'] :=
  fun hdot => h.ne_dot (String.toList_inj.mp hdot)

/-- A name at the end of a path is not trimmed. -/
lemma trimEnd_of_name {name rest : List Char} (hslash : '/' ∉ name) (hne : name ≠ [])
    (hdot : name ≠ ['.']) : trimEnd (name ++ rest) = name ++ rest := by
  obtain ⟨c, later, rfl⟩ := List.exists_cons_of_ne_nil hne
  obtain ⟨hc, hlater⟩ := List.ne_and_not_mem_of_not_mem_cons hslash
  rw [List.cons_append, trimEnd]
  · intro rest' heq
    exact hc (List.cons.inj heq).1.symm
  · -- a dot is not the whole name, so what is before it is no slash
    intro rest' heq
    obtain ⟨rfl, hrest⟩ := List.cons.inj heq
    cases later with
    | nil => exact hdot rfl
    | cons d later =>
      obtain ⟨rfl, -⟩ := List.cons.inj hrest
      exact hlater List.mem_cons_self

section Below

variable {base name path : String} (hname : IsFileName name)
  (hpath : path.toList = base.toList ++ '/' :: name.toList)

include hname hpath

/-- A file in a directory has its name as the last component. -/
lemma components_below : components path = components base ++ [name] := by
  have hlast : componentsOf name.toList = [name] := by
    simp [componentsOf, splitSlashes_of_notMem hname.slash, hname.ne_empty, hname.ne_dot]
  show componentsOf path.toList = componentsOf base.toList ++ [name]
  rw [hpath, componentsOf_append, hlast]

lemma namesDirectory_below : namesDirectory path = false := by
  have hsplit : splitSlashes path.toList = splitSlashes base.toList ++ [name.toList] := by
    rw [hpath, splitSlashes_append, splitSlashes_of_notMem hname.slash]
  have hdot : endsInDot path = false := by
    simp [endsInDot, hsplit, List.filter_append, hname.toList_ne_nil, hname.toList_ne_dot]
  have hlast : path.toList.getLast? = some (name.toList.getLast hname.toList_ne_nil) := by
    rw [hpath, List.getLast?_append, List.getLast?_cons,
      List.getLast?_eq_some_getLast hname.toList_ne_nil]
    rfl
  have hslash : name.toList.getLast hname.toList_ne_nil ≠ '/' := by
    intro heq
    exact hname.slash (heq ▸ List.getLast_mem hname.toList_ne_nil)
  rw [namesDirectory, hdot, hlast]
  simpa using hslash

/-- The directory of a file in a directory is found, if its path has nothing needless at its end. -/
lemma parent?_below (hbase : base ≠ "")
    (htrim : trimEnd base.toList.reverse = base.toList.reverse) : parent? path = some base := by
  have hslash : '/' ∉ name.toList.reverse := fun hmem => hname.slash (List.mem_reverse.mp hmem)
  have hwhole : trimEnd path.toList.reverse =
      name.toList.reverse ++ '/' :: base.toList.reverse := by
    have hreverse : path.toList.reverse = name.toList.reverse ++ '/' :: base.toList.reverse := by
      simp [hpath]
    rw [hreverse, trimEnd_of_name hslash]
    · simpa using hname.ne_empty
    · intro hdot
      exact hname.toList_ne_dot (List.reverse_eq_iff.mp hdot)
  have habove : (name.toList.reverse ++ '/' :: base.toList.reverse).dropWhile (· != '/') =
      '/' :: base.toList.reverse := by
    rw [List.dropWhile_append_of_pos]
    · rfl
    · intro c hc
      simpa using fun heq : c = '/' => hslash (heq ▸ hc)
  simp [parent?, hwhole, habove, trimEnd, htrim, hbase]

end Below

end Findings.Files
