import Findings.Proofs.Toml.Statement

/-!
# Documents of sections

A document whose lines are headers with assignments to bare keys behind each of them is read as a
table of tables. The headers have different names, and so have the keys behind one header.
-/
namespace Findings.Toml

/-! ### Tables under construction -/

namespace Entries

variable {entries : Entries} {key : String}

/-- Nothing is at a key. -/
def Lacks (entries : Entries) (key : String) : Prop := ∀ entry ∈ entries, entry.1 ≠ key

lemma lacks_append (entries later : Entries) (key : String) :
    Lacks (entries ++ later) key ↔ Lacks entries key ∧ Lacks later key := List.forall_mem_append

lemma lacks_singleton {name : String} {node : Node} : Lacks [(name, node)] key ↔ name ≠ key := by
  simp [Lacks]

lemma Lacks.find? (h : Lacks entries key) : entries.find? (·.1 == key) = none := by
  simpa [Lacks] using h

lemma Lacks.any (h : Lacks entries key) : entries.any (·.1 == key) = false := by
  simpa [Lacks] using h

lemma Lacks.at? (h : Lacks entries key) : entries.at? key = none := by
  rw [Entries.at?, h.find?, Option.map_none]

lemma Lacks.put (h : Lacks entries key) (node : Node) :
    entries.put key node = entries ++ [(key, node)] := by
  rw [Entries.put, h.any, if_neg (by decide)]

lemma Lacks.at?_append (h : Lacks entries key) (node : Node) :
    Entries.at? (entries ++ [(key, node)]) key = some node := by
  rw [Entries.at?, List.find?_append, h.find?]
  simp

/-- What stands last is replaced at its place. -/
lemma Lacks.put_append (h : Lacks entries key) (node changed : Node) :
    Entries.put (entries ++ [(key, node)]) key changed = entries ++ [(key, changed)] := by
  have hkept : (entries.map fun entry => if entry.1 == key then (key, changed) else entry) =
      entries := by
    refine (List.map_congr_left fun entry hentry => ?_).trans (List.map_id entries)
    rw [if_neg (by simpa using h entry hentry), id]
  rw [Entries.put, if_pos (by simp), List.map_append, hkept]
  simp

end Entries

section Draft

variable {root held : Entries} {name key : String}

/-- A header opens a table behind the others. -/
lemma take_openTable (h : root.Lacks name) (current : Option (List String × String)) :
    Draft.take ⟨root, current⟩ (.openTable [] name) =
      some ⟨root ++ [(name, .table .header [])], some ([], name)⟩ := by
  simp only [Draft.take, Entries.within, Entries.openTable, h.at?, h.put]
  rfl

/-- An assignment adds to the table that was opened last. -/
lemma take_assign (h : root.Lacks name) (hkey : held.Lacks key) (value : Value) :
    Draft.take ⟨root ++ [(name, .table .header held)], some ([], name)⟩ (.assign [] key value) =
      some ⟨root ++ [(name, .table .header (held ++ [(key, .value value)]))], some ([], name)⟩ := by
  simp only [Draft.take, Entries.inOpen, Entries.within, h.at?_append, Entries.assign, hkey.at?,
    hkey.put, h.put_append, Option.isSome_none, Bool.false_eq_true, if_false,
    Option.bind_eq_bind, Option.bind_some]
  rfl

/-- The entries of a table of values. -/
def valueNodes (entries : List (String × Value)) : Entries :=
  entries.map fun entry => (entry.1, .value entry.2)

/-- Assignments to different keys add to the table that was opened last, one after the other. -/
lemma foldlM_take_assign (h : root.Lacks name) {entries : List (String × Value)}
    (hkeys : (entries.map (·.1)).Nodup) (hheld : ∀ entry ∈ entries, held.Lacks entry.1) :
    (entries.map fun entry => Statement.assign [] entry.1 entry.2).foldlM Draft.take
        ⟨root ++ [(name, .table .header held)], some ([], name)⟩ =
      some ⟨root ++ [(name, .table .header (held ++ valueNodes entries))], some ([], name)⟩ := by
  induction entries generalizing held with
  | nil =>
    have hnone : held ++ valueNodes [] = held := List.append_nil held
    rw [hnone]
    rfl
  | cons entry entries ih =>
    obtain ⟨hnew, hkeys⟩ := List.nodup_cons.mp hkeys
    have hlater : ∀ later ∈ entries, (held ++ [(entry.1, Node.value entry.2)]).Lacks later.1 := by
      intro later hmem
      refine (Entries.lacks_append _ _ _).mpr
        ⟨hheld later (List.mem_cons_of_mem _ hmem), Entries.lacks_singleton.mpr fun heq => ?_⟩
      exact hnew (List.mem_map.mpr ⟨later, hmem, heq.symm⟩)
    rw [List.map_cons, List.foldlM_cons, take_assign h (hheld entry List.mem_cons_self),
      Option.bind_eq_bind, Option.bind_some, ih hkeys hlater, valueNodes, List.append_assoc]
    rfl

end Draft

/-! ### Sections -/

/-- A header and the assignments behind it. -/
structure Section where
  name : String
  entries : List (String × Value)

def Section.statements (s : Section) : List Statement :=
  .openTable [] s.name :: s.entries.map fun entry => .assign [] entry.1 entry.2

/-- The table of a document of sections. -/
def sectionsTable (sections : List Section) : Value :=
  .table (sections.map fun s => (s.name, .table s.entries))

/-- The table of a document of sections while it is built. -/
def sectionNodes (sections : List Section) : Entries :=
  sections.map fun s => (s.name, .table .header (valueNodes s.entries))

/-- Sections have different names, and the keys of each of them are different. -/
structure IsDocument (sections : List Section) : Prop where
  names : (sections.map (·.name)).Nodup
  keys : ∀ s ∈ sections, (s.entries.map (·.1)).Nodup

lemma foldlM_take_section {root : Entries} {s : Section} (h : root.Lacks s.name)
    (hkeys : (s.entries.map (·.1)).Nodup) (current : Option (List String × String)) :
    s.statements.foldlM Draft.take ⟨root, current⟩ =
      some ⟨root ++ sectionNodes [s], some ([], s.name)⟩ := by
  rw [Section.statements, List.foldlM_cons, take_openTable h, Option.bind_eq_bind,
    Option.bind_some, foldlM_take_assign h hkeys fun _ _ _ hmem => absurd hmem List.not_mem_nil]
  rfl

/-- The sections are added to the document one after the other. -/
lemma foldlM_take_sections {sections : List Section} (h : IsDocument sections) {root : Entries}
    (hroot : ∀ s ∈ sections, root.Lacks s.name) (current : Option (List String × String)) :
    ∃ last, (sections.flatMap Section.statements).foldlM Draft.take ⟨root, current⟩ =
      some ⟨root ++ sectionNodes sections, last⟩ := by
  induction sections generalizing root current with
  | nil =>
    refine ⟨current, ?_⟩
    rw [sectionNodes, List.map_nil, List.append_nil]
    rfl
  | cons s sections ih =>
    obtain ⟨hnew, hnames⟩ := List.nodup_cons.mp h.names
    obtain ⟨hkeys, hlaterKeys⟩ := List.forall_mem_cons.mp h.keys
    have hlater : ∀ t ∈ sections, (root ++ sectionNodes [s]).Lacks t.name := by
      intro t ht
      refine (Entries.lacks_append _ _ _).mpr
        ⟨hroot t (List.mem_cons_of_mem _ ht), Entries.lacks_singleton.mpr fun heq => ?_⟩
      exact hnew (List.mem_map.mpr ⟨t, ht, heq.symm⟩)
    obtain ⟨last, hlast⟩ := ih ⟨hnames, hlaterKeys⟩ hlater (some ([], s.name))
    refine ⟨last, ?_⟩
    rw [List.flatMap_cons, List.foldlM_append, foldlM_take_section (hroot s List.mem_cons_self) hkeys,
      Option.bind_eq_bind, Option.bind_some, hlast, List.append_assoc]
    rfl

lemma finishEntries_valueNodes (entries : List (String × Value)) :
    finishEntries (valueNodes entries) = entries := by
  induction entries with
  | nil => rfl
  | cons entry entries ih =>
    rw [valueNodes, List.map_cons, finishEntries, ← valueNodes, ih, Node.finish]

lemma finishEntries_sectionNodes (sections : List Section) :
    finishEntries (sectionNodes sections) =
      sections.map fun s => (s.name, Value.table s.entries) := by
  induction sections with
  | nil => rfl
  | cons s sections ih =>
    rw [sectionNodes, List.map_cons, finishEntries, ← sectionNodes, ih, Node.finish,
      finishEntries_valueNodes, List.map_cons]

/-- A document of sections is read as the table of their tables. -/
theorem read?_eq_sectionsTable {sections : List Section} (h : IsDocument sections)
    {text : List Char} (hmark : text.head? ≠ some '\ufeff')
    (hreads : Reads text (sections.flatMap Section.statements)) :
    read? (String.ofList text) = some (sectionsTable sections) := by
  have hstatements : statements? (String.ofList text) =
      some (sections.flatMap Section.statements) := by
    simp only [statements?, String.toList_ofList]
    split
    · exact absurd rfl ‹_›
    · exact hreads _ (Nat.lt_succ_self _)
  have hempty : ∀ s ∈ sections, Entries.Lacks [] s.name := fun _ _ _ hmem =>
    absurd hmem List.not_mem_nil
  obtain ⟨last, hlast⟩ := foldlM_take_sections h hempty none
  simp only [read?, hstatements, Option.bind_eq_bind, Option.bind_some, hlast, List.nil_append,
    finishEntries_sectionNodes]
  rfl

end Findings.Toml
