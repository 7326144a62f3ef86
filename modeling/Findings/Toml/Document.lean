import Findings.Toml.Statement

/-!
# Documents of TOML

The statements of a document build one table. A header opens a table that may have been implied
by longer headers, but none that has been opened or written before; a dotted key extends only
tables that dotted keys made. The path of a header goes through the last item of a list.
-/
namespace Findings.Toml

/-- How a table came to be: by its own header, by the header of a table in it, or by a dotted
key. -/
inductive Origin where
  | header
  | implied
  | dotted
  deriving DecidableEq, Repr

/-- What is at a key of a document under construction. The items of a list of tables are in
reverse order. -/
inductive Node where
  | value (value : Value)
  | table (origin : Origin) (entries : List (String × Node))
  | items (reversed : List (List (String × Node)))

/-- The entries of a table under construction. -/
abbrev Entries := List (String × Node)

namespace Entries

def at? (entries : Entries) (key : String) : Option Node :=
  (entries.find? (·.1 == key)).map (·.2)

/-- The entries with something at a key, at its old place if it has one. -/
def put (entries : Entries) (key : String) (node : Node) : Entries :=
  if entries.any (·.1 == key) then
    entries.map fun entry => if entry.1 == key then (key, node) else entry
  else entries ++ [(key, node)]

/-- The entries with a value at a dotted key. -/
def assign (value : Value) (key : String) : List String → Entries → Option Entries
  | [], entries =>
    if (entries.at? key).isSome then none else some (entries.put key (.value value))
  | part :: path, entries =>
    match entries.at? part with
    | none => do
      let inner ← assign value key path []
      return entries.put part (.table .dotted inner)
    | some (.table origin inner) => do
      if origin = .header || (path.isEmpty && origin ≠ .dotted) then none
      else
        let inner ← assign value key path inner
        return entries.put part (.table origin inner)
    | some (.items (last :: others)) => do
      if path.isEmpty then none
      else
        let last ← assign value key path last
        return entries.put part (.items (last :: others))
    | some _ => none

/-- The entries with a change to the table at a path, which headers imply where it is missing. -/
def within (change : Entries → Option Entries) : List String → Entries → Option Entries
  | [], entries => change entries
  | part :: path, entries =>
    match entries.at? part with
    | none => do
      let inner ← within change path []
      return entries.put part (.table .implied inner)
    | some (.table origin inner) => do
      let inner ← within change path inner
      return entries.put part (.table origin inner)
    | some (.items (last :: others)) => do
      let last ← within change path last
      return entries.put part (.items (last :: others))
    | some _ => none

/-- The entries with a table opened at a key. -/
def openTable (key : String) (entries : Entries) : Option Entries :=
  match entries.at? key with
  | none => some (entries.put key (.table .header []))
  | some (.table .implied inner) => some (entries.put key (.table .header inner))
  | some _ => none

/-- The entries with a new table at the end of the list at a key. -/
def openItem (key : String) (entries : Entries) : Option Entries :=
  match entries.at? key with
  | none => some (entries.put key (.items [[]]))
  | some (.items reversed) => some (entries.put key (.items ([] :: reversed)))
  | some _ => none

/-- The entries with a change to the table that is open: the one at a key of the table at a path,
or the last item there. -/
def inOpen (change : Entries → Option Entries) (path : List String) (key : String)
    (entries : Entries) : Option Entries :=
  within (fun inner =>
    match inner.at? key with
    | some (.table origin held) => do
      let held ← change held
      return inner.put key (.table origin held)
    | some (.items (last :: others)) => do
      let last ← change last
      return inner.put key (.items (last :: others))
    | _ => none) path entries

end Entries

/-- A document under construction and the table that is open, if it is not the whole. -/
structure Draft where
  root : Entries
  current : Option (List String × String)

/-- The document behind one statement. -/
def Draft.take (draft : Draft) : Statement → Option Draft
  | .assign path key value => do
    let change := Entries.assign value key path
    let root ← match draft.current with
      | none => change draft.root
      | some (outer, name) => Entries.inOpen change outer name draft.root
    return { draft with root }
  | .openTable path key => do
    let root ← Entries.within (Entries.openTable key) path draft.root
    return ⟨root, some (path, key)⟩
  | .openItem path key => do
    let root ← Entries.within (Entries.openItem key) path draft.root
    return ⟨root, some (path, key)⟩

mutual

/-- The value of what was under construction. -/
def Node.finish : Node → Value
  | .value value => value
  | .table _ entries => .table (finishEntries entries)
  | .items reversed => .array (finishItems reversed).reverse

def finishEntries : List (String × Node) → List (String × Value)
  | [] => []
  | entry :: rest => (entry.1, entry.2.finish) :: finishEntries rest

def finishItems : List (List (String × Node)) → List Value
  | [] => []
  | entries :: rest => .table (finishEntries entries) :: finishItems rest

end

def read? (text : String) : Option Value := do
  let statements ← statements? text
  let draft ← statements.foldlM Draft.take ⟨[], none⟩
  return .table (finishEntries draft.root)

end Findings.Toml
