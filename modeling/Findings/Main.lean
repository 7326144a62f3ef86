import Findings.CommandLine.Run
import Findings.Store.Document
import Std.Time.DateTime.Timestamp

/-!
# The program

The program takes what it may need from the file system into a tree, runs the command on it,
and writes back what the command has changed.
-/
namespace Findings.Main

open Findings.CommandLine
open Findings.Files
open Findings.Store

def pathOf (place : Place) : String := "/" ++ String.intercalate "/" place

/-- What the bytes of a file are. -/
def entryOf (bytes : ByteArray) : Entry :=
  match (String.fromUTF8? bytes).bind Store.read? with
  | some contents => .store contents
  | none => .plain bytes

/-- What the file system has at a place. -/
def readPlace (place : Place) : IO (Option Entry) := do
  match ← (IO.FS.realPath (pathOf place)).toBaseIO with
  | .error _ => return none
  | .ok path =>
    if ← path.isDir then return some .directory
    else return some (entryOf (← IO.FS.readBinFile path))

/-- The tree with what the file system has on the way of a path. -/
def readPath (tree : Tree) (path : String) : IO Tree :=
  (tree.placesOf path).foldlM (fun tree place => do
    match ← readPlace place with
    | some entry => return tree.put place entry
    | none => return tree) tree

/-- Writes something to the file system at a place. -/
def writePlace (place : Place) : Entry → IO Unit
  | .directory => IO.FS.createDirAll (pathOf place)
  | .plain bytes => IO.FS.writeBinFile (pathOf place) bytes
  | .store contents => IO.FS.writeFile (pathOf place) contents.write

/-- The variables that mean something to the program, and the present time. -/
def readSetting : IO Setting := do
  let mut env : Config.Environment := []
  for name in Config.variableNames do
    if let some value ← IO.getEnv name then env := env ++ [(name, value)]
  let now ← Std.Time.Timestamp.now
  let nanos := now.toNanosecondsSinceUnixEpoch.toInt
  let time : Time.Timestamp :=
    (Time.Timestamp.of? (nanos / 1000000000) (nanos % 1000000000).toNat).getD default
  return ⟨env, time.zonedText⟩

/-- The files that a command line may need. -/
def readTree (setting : Setting) (args : List String) : IO Tree := do
  let working := components (← IO.currentDir).toString
  let tree := Tree.bare working
  match read args with
  | .error _ => return tree
  | .ok invocation =>
    let tree ← (namedPaths setting invocation tree).foldlM readPath tree
    match storePath? setting invocation tree with
    | some path => readPath tree path
    | none => return tree

def tell : Outcome → IO Unit
  | .printed text => IO.print text
  | .refused .help => IO.print usage
  | .refused fault => IO.eprint s!"error: {fault.message}\n\n{usage}"
  | .failed e => IO.eprintln s!"Error: {e.message}"

/-- Runs a command line on the file system and gives the exit status. -/
def runProgram (args : List String) : IO UInt32 := do
  let setting ← readSetting
  let tree ← readTree setting args
  let (outcome, changed) := run setting args tree
  for (place, entry) in tree.changes changed do
    writePlace place entry
  tell outcome
  return outcome.exitCode.toUInt32

end Findings.Main

def main (args : List String) : IO UInt32 := Findings.Main.runProgram args
