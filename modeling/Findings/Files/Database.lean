import Findings.Files.Tree
import Findings.Store.Schema

/-!
# Stores in files

A store lives in a file. Opening makes the file and the directories above it where they are
missing; the schema is applied in a step of its own. A path that names no file opens an empty store
every time, which nothing else ever leads to.
-/
namespace Findings.Files

open Findings.Store

/-- A computation on the files. What it changed stays also when it fails. -/
abbrev FileAction := ExceptT Error (StateM Tree)

/-- The store in the file at a place; an empty file is an empty store. -/
def Tree.storeAt? (tree : Tree) (place : Place) : Option Store :=
  match tree.at? place with
  | none => some {}
  | some (.store contents) => some contents
  | some (.plain bytes) => if bytes.isEmpty then some {} else none
  | some .directory => none

/-- Where a store is: in the file at a place, or nowhere but in the memory of the program. -/
inductive Site where
  | file (place : Place)
  | own
  deriving DecidableEq

/-- The paths of files that the engine can open are shorter. -/
def pathLimit : Nat := 512

/-- How much longer the names of the files are that the engine keeps beside the file of a store. -/
def companionLength : Nat := 8

/-- The length of the path of a place in bytes. -/
def pathLength (place : Place) : Nat :=
  place.foldr (fun name length => name.utf8ByteSize + 1 + length) 0

namespace Tree

/-- What a path is taken for by the engine. -/
def target? (tree : Tree) (path : String) : Option Target :=
  if isPrivate path then some .own
  else if path.toList.contains '\x00' then none
  else if isAddress path then tree.system.address path
  else some (.file path)

/-- Whether the engine can name a place that a path leads to, the places on its way, and the other
files that it needs there. -/
def canName (tree : Tree) (path : String) (place : Place) : Bool :=
  (tree.placesOf path).all (pathLength · < pathLimit) &&
    pathLength place + companionLength ≤ pathLimit &&
    (place.getLastD "").utf8ByteSize + companionLength ≤ maxName

/-- Where the store of a path is. -/
def site? (tree : Tree) (path : String) : Option Site :=
  match tree.target? path with
  | none => none
  | some .own => some .own
  | some (.file path) =>
    match tree.locate path with
    | .error _ => none
    | .ok place => if tree.canName path place then some (.file place) else none

def storeOf? (tree : Tree) : Site → Option Store
  | .file place => tree.storeAt? place
  | .own => some tree.own

/-- The tree with a store at a site. -/
def keep (tree : Tree) (site : Site) (contents : Store) : Tree :=
  match site with
  | .file place => tree.put place (.store contents)
  | .own => { tree with own := contents }

end Tree

/-- Runs a step on the store at a path. -/
def onStore {α : Type} (path : String) (step : Action α) : FileAction α := do
  let tree ← get
  match tree.site? path with
  | none => throw .connection
  | some site =>
    match tree.storeOf? site with
    | none => throw .connection
    | some contents =>
      let (result, changed) := step contents
      set (tree.keep site changed)
      match result with
      | .ok a => return a
      | .error e => throw e

def makeParent (task : String → FileTask) (path : String) : FileAction Unit := do
  match parent? path with
  | none => return
  | some above =>
    let (tree, found) := (← get).makeAll above
    set tree
    match found with
    | some f => throw (.file (task above) f)
    | none => return

/-- Opens a store without a file and takes a first step on it. Unless the step succeeds, the one
that was opened before stays. -/
def openOwn (step : Action Unit) : FileAction Unit := do
  match step {} with
  | (.error e, _) => throw e
  | (.ok (), contents) => modify fun tree => tree.keep .own contents

/-- Opens the store at a path for embeddings of a dimension, with a first step on it. -/
def openWith (step : Handle → Action Unit) (path : String) (dimension : Nat) :
    FileAction Handle := do
  if dimension = 0 then throw (.setting .zeroDimension)
  makeParent .createDatabaseDirectory path
  let handle : Handle := ⟨path, dimension⟩
  if (← get).target? path = some .own then openOwn (step handle)
  else onStore path (step handle)
  return handle

/-- Opens the store at a path for embeddings of a dimension. -/
def openStore (path : String) (dimension : Nat) : FileAction Handle :=
  openWith checkHandle path dimension

/-- Checks the dimension of a store and applies the schema. -/
def checkAndApply (handle : Handle) : Action Unit := do
  checkHandle handle
  applySchema handle

/-- Opens the store at a path and applies the schema. -/
def openAndApply (path : String) (dimension : Nat) : FileAction Handle :=
  openWith checkAndApply path dimension

end Findings.Files
