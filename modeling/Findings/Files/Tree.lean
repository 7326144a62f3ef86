import Findings.Error
import Findings.Files.Path
import Findings.Store.Basic

/-!
# Files

A tree of directories, plain files and files that hold a store. A path is followed from the
working directory one component at a time, and every component on its way has to be an existing
directory.
-/
namespace Findings.Files

open Findings.Store

/-- What there is at a place of the tree. -/
inductive Entry where
  | directory
  | plain (bytes : ByteArray)
  | store (contents : Store)

def Entry.same : Entry → Entry → Bool
  | .directory, .directory => true
  | .plain a, .plain b => a.data.toList == b.data.toList
  | .store a, .store b => a == b
  | _, _ => false

/-- A place of the tree: the names from the root on. -/
abbrev Place := List String

/-- What is decided outside of the files. -/
structure System where
  /-- What an address is taken for. How addresses are spelled is left to the engine. -/
  address : String → Option Target := fun _ => none
  /-- The home directory that the account of the user tells. -/
  home : Option String := none

/-- Directories and files by their places, and the place that relative paths begin at. -/
structure Tree where
  entries : List (Place × Entry)
  working : Place
  /-- The store without a file that was opened last. -/
  own : Store := {}
  system : System := {}

namespace Tree

def bare (working : Place) : Tree := { entries := [], working }

/-- What there is at a place. The root always exists. -/
def at? (tree : Tree) (place : Place) : Option Entry :=
  if place.isEmpty then some .directory
  else (tree.entries.find? (·.1 == place)).map (·.2)

def put (tree : Tree) (place : Place) (entry : Entry) : Tree :=
  { tree with entries := (place, entry) :: tree.entries.filter (·.1 != place) }

/-- What a later tree has that this one has not, in the order in which it was made. -/
def changes (before after : Tree) : List (Place × Entry) :=
  (after.entries.filter fun entry =>
    match before.at? entry.1 with
    | some old => !old.same entry.2
    | none => true).reverse

/-- Fails unless a place is an existing directory. -/
def enter (tree : Tree) (place : Place) : Except FileFault Unit :=
  match tree.at? place with
  | some .directory => .ok ()
  | some _ => .error .notDirectory
  | none => .error .missing

/-- The longest name of a file in bytes. -/
def maxName : Nat := 255

/-- The place that names lead to from a place. -/
def follow (tree : Tree) (place : Place) : List String → Except FileFault Place
  | [] => .ok place
  | name :: names => do
    tree.enter place
    if name == ".." then tree.follow place.dropLast names
    else if maxName < name.utf8ByteSize then .error .nameTooLong
    else tree.follow (place ++ [name]) names

/-- The places that names lead over from a place. -/
def placesOn (place : Place) : List String → List Place
  | [] => []
  | name :: names =>
    let next := if name == ".." then place.dropLast else place ++ [name]
    next :: placesOn next names

/-- The places on the way of a path, and those above the working directory. -/
def placesOf (tree : Tree) (path : String) : List Place :=
  if isAbsolute path then placesOn [] (components path)
  else placesOn [] tree.working ++ placesOn tree.working (components path)

/-- The place of a path; there may be nothing at it. -/
def locate (tree : Tree) (path : String) : Except FileFault Place :=
  if path.toList.contains '\x00' then .error .zeroInName
  else if path.isEmpty then .error .missing
  else tree.follow (if isAbsolute path then [] else tree.working) (components path)

def lookUp (tree : Tree) (path : String) : Except FileFault Entry := do
  let place ← tree.locate path
  match tree.at? place with
  | none => .error .missing
  | some .directory => .ok .directory
  | some entry => if namesDirectory path then .error .notDirectory else .ok entry

def pathExists (tree : Tree) (path : String) : Bool := (tree.lookUp path).toOption.isSome

def isDirectory (tree : Tree) (path : String) : Bool :=
  match tree.lookUp path with
  | .ok .directory => true
  | _ => false

/-- The text of a file. A store is no text. -/
def readText (tree : Tree) (path : String) : Except FileFault String := do
  match ← tree.lookUp path with
  | .directory => .error .isDirectory
  | .store _ => .error .notText
  | .plain bytes =>
    match String.fromUTF8? bytes with
    | some text => .ok text
    | none => .error .notText

/-- The tree with a file of a text, in place of the file that may be there. -/
def writeText (tree : Tree) (path text : String) : Except FileFault Tree := do
  let place ← tree.locate path
  tree.enter place.dropLast
  match tree.at? place with
  | some .directory => .error .isDirectory
  | some _ =>
    if namesDirectory path then .error .notDirectory
    else .ok (tree.put place (.plain text.toUTF8))
  | none =>
    if endsInDot path then .error .missing
    else if namesDirectory path then .error .isDirectory
    else .ok (tree.put place (.plain text.toUTF8))

def makeDirectory (tree : Tree) (path : String) : Except FileFault Tree := do
  let place ← tree.locate path
  tree.enter place.dropLast
  match tree.at? place with
  | some _ => .error .exists
  | none => .ok (tree.put place .directory)

/-- Makes a directory, or gives the fault unless it is there. -/
def ensureDirectory (tree : Tree) (path : String) : Except FileFault Tree :=
  match tree.makeDirectory path with
  | .ok made => .ok made
  | .error f => if tree.isDirectory path then .ok tree else .error f

/-- Makes a directory and those above it that are missing, at most `fuel` of them. The tree is
given back also with a fault, because the upper directories may have been made. -/
def makeDirectories (tree : Tree) : Nat → String → Tree × Option FileFault
  | 0, _ => (tree, some .missing)
  | fuel + 1, path =>
    if path.isEmpty then (tree, none)
    else
      match tree.ensureDirectory path with
      | .ok made => (made, none)
      | .error .missing =>
        match parent? path with
        | none => (tree, some .missing)
        | some above =>
          match tree.makeDirectories fuel above with
          | (made, some f) => (made, some f)
          | (made, none) =>
            match made.ensureDirectory path with
            | .ok made => (made, none)
            | .error f => (made, some f)
      | .error f => (tree, some f)

/-- Makes a directory and those above it that are missing. Each of them has a shorter path. -/
def makeAll (tree : Tree) (path : String) : Tree × Option FileFault :=
  tree.makeDirectories (path.length + 1) path

end Tree

end Findings.Files
