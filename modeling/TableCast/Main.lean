import TableCast.Command.Workspace

/-!
# The program

Reads the files that a run needs, performs the run, and writes what it leaves behind.
-/

namespace TableCast
namespace Program

open Command Files

/-- The text of a file, if it can be read. -/
def readText? (path : String) : IO (Option String) := do
  try
    return some (← IO.FS.readFile path)
  catch _ => return none

/-- The text of a place. -/
def placeText (place : Place) : String :=
  ({ root := "/", names := place } : Path).text

/-- The disk with the file that a path leads to, if there is one. -/
def withFile (disk : Disk) (path : Path) : IO Disk := do
  match disk.walk path with
  | .error _ => return disk
  | .ok place =>
    match ← readText? (placeText place) with
    | some text => return { disk with tree := disk.tree.withFile place text }
    | none => return disk

/-- The disk with those of the given places that are files. -/
def withPlaces (disk : Disk) (places : List Place) : IO Disk :=
  places.foldlM (fun disk place => do
    match ← readText? (placeText place) with
    | some text => return { disk with tree := disk.tree.withFile place text }
    | none => return disk) disk

/-- The disk with the directories on the way to a place. -/
def openDirectories (disk : Disk) (path : Path) : Disk :=
  let place := if path.isAbsolute then path.names else disk.working ++ path.names
  { disk with tree := disk.tree.withDirectory place.dropLast }

/-- The disk with the file that a path leads to, its directories included. -/
def withInput (disk : Disk) (path : Path) : IO Disk := do
  let opened ← withFile (openDirectories disk path) path
  return if (opened.content? path).isSome then opened else disk

/-- A secret made of random digits. -/
def freshSecret : IO String := do
  let bytes ← IO.getRandomBytes 50
  return String.join (bytes.toList.map fun b =>
    let digit := fun (n : Nat) => String.singleton (Nat.digitChar n)
    digit (b.toNat / 16) ++ digit (b.toNat % 16))

/-- Writes what stands at a place. -/
def writeNode (entry : Place × Node) : IO Unit :=
  match entry with
  | (place, .directory) => IO.FS.createDirAll (placeText place)
  | (place, .file text) => IO.FS.writeFile (placeText place) text

/-- The disk of a run with the given arguments, and the database that it reads. -/
def prepare (a : Arguments) (disk : Disk) (secret : String) : IO (Disk × Run.Database) := do
  let disk ← match a.config with
    | some file => withInput disk (Path.ofText file)
    | none => pure disk
  match configurationOf? a disk secret with
  | none => return (disk, databaseOf none)
  | some c =>
    let catalog ← match recordingPath? c with
      | some path => readText? path.text
      | none => pure none
    let database := databaseOf catalog
    let manifest := manifestPath c
    let disk ← withInput disk manifest
    let disk ← ((disk.content? manifest).map (templatePaths c)).getD [] |>.foldlM withInput disk
    return (disk, database)

/-- The program with the given arguments. -/
def run (arguments : List String) : IO UInt32 := do
  let working := Path.namesOf (← IO.currentDir).toString
  let empty : Disk := { tree := ({} : Tree).withDirectory working, working }
  let secret ← freshSecret
  let (disk, database) ← match readArguments arguments with
    | .ok (.run a) => prepare a empty secret
    | _ => pure (empty, databaseOf none)
  let attempt := perform arguments database disk secret true false
  let disk ← withPlaces disk (consulted disk attempt.disk)
  let performed := perform arguments database disk secret true false
  for entry in changes disk performed.disk do
    writeNode entry
  IO.eprint performed.messages
  IO.print performed.output
  return performed.code.toUInt32

end Program
end TableCast

/-- The program. -/
def main (arguments : List String) : IO UInt32 :=
  TableCast.Program.run arguments
