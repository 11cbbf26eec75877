import TableCast.Files.Path
import TableCast.Text.Quoted

/-!
# File trees

A finite tree of directories and files, and what the operating system does with it: every
name but the last of a path leads into a directory, and a place that is taken is not
created a second time.

- `Node`, `Tree`, `Disk`: what stands at a place, the tree, the tree with a working
  directory.
- `SystemError`: why an operation fails.
- `Disk.exists?`, `Disk.makeDirectories`, `Disk.writeFile`: the operations.
- `Tree.listing`: all files and empty directories.
-/

namespace TableCast
namespace Files

open Text

/-- What stands at a place. -/
inductive Node where
  | directory
  | file (content : String)
deriving Repr, DecidableEq, Inhabited

/-- A place: the names from the root of all files. -/
abbrev Place := List String

/-- A tree of directories and files, by their places.  The root is always a directory. -/
structure Tree where
  /-- What stands at the places below the root. -/
  nodes : List (Place × Node) := []
deriving Repr, Inhabited

namespace Tree

/-- What stands at a place. -/
def node? (t : Tree) (place : Place) : Option Node :=
  if place.isEmpty then some .directory else (t.nodes.find? (·.1 == place)).map (·.2)

/-- The nodes with another node at a place. -/
def putNode (place : Place) (node : Node) : List (Place × Node) → List (Place × Node)
  | [] => [(place, node)]
  | (p, n) :: rest =>
    if p == place then (place, node) :: rest else (p, n) :: putNode place node rest

/-- The tree with another node at a place. -/
def put (t : Tree) (place : Place) (node : Node) : Tree :=
  { nodes := putNode place node t.nodes }

/-- The tree with directories along the names behind a place; what stands is kept. -/
def withDirectoriesFrom (t : Tree) (place : Place) : List String → Tree
  | [] => t
  | name :: names =>
    let next := place ++ [name]
    (if (t.node? next).isSome then t else t.put next .directory).withDirectoriesFrom next names

/-- The tree with a directory at a place and at every place above. -/
def withDirectory (t : Tree) (place : Place) : Tree :=
  t.withDirectoriesFrom [] place

/-- The tree with a file, and directories above it. -/
def withFile (t : Tree) (place : Place) (content : String) : Tree :=
  (t.withDirectory place.dropLast).put place (.file content)

/-- The tree with several files below a place, each under the names of a path. -/
def withFiles (t : Tree) (place : Place) (files : List (String × String)) : Tree :=
  files.foldl (fun t (path, content) => t.withFile (place ++ Path.namesOf path) content) t

/-- The content of the file at a place. -/
def content? (t : Tree) (place : Place) : Option String :=
  match t.node? place with
  | some (.file content) => some content
  | _ => none

/-- Whether there is a file or a directory inside of a place. -/
def isOccupied (t : Tree) (place : Place) : Bool :=
  t.nodes.any fun (p, _) => place.isPrefixOf p && p != place

/-- The files and the empty directories below a place, without the names of the place. -/
def listing (t : Tree) (place : Place) : List (List String × Option String) :=
  t.nodes.filterMap fun (p, n) =>
    if place.isPrefixOf p && p != place then
      match n with
      | .file content => some (p.drop place.length, some content)
      | .directory => if t.isOccupied p then none else some (p.drop place.length, none)
    else none

end Tree

/-- Why an operation on files fails. -/
inductive SystemError where
  | missing
  | taken
  | notDirectory
  | isDirectory
  | nameTooLong
deriving Repr, DecidableEq, Inhabited

/-- The number of an error. -/
def SystemError.number : SystemError → Nat
  | .missing => 2
  | .taken => 17
  | .notDirectory => 20
  | .isDirectory => 21
  | .nameTooLong => 36

/-- What an error says. -/
def SystemError.reason : SystemError → String
  | .missing => "No such file or directory"
  | .taken => "File exists"
  | .notDirectory => "Not a directory"
  | .isDirectory => "Is a directory"
  | .nameTooLong => "File name too long"

/-- The message about an operation on a path that fails. -/
def SystemError.message (e : SystemError) (path : Path) : String :=
  "[Errno " ++ toString e.number ++ "] " ++ e.reason ++ ": " ++ Quoted.text path.text

/-- Why a path cannot be used. -/
inductive PathError where
  | system (e : SystemError) (path : Path)
  | nullCharacter
deriving Repr, DecidableEq, Inhabited

/-- The message about a path with a null character. -/
def nullMessage : String := "embedded null byte"

/-- The most bytes of a name. -/
def longestName : Nat := 255

/-- One more than the most bytes of a path. -/
def longestPath : Nat := 4096

/-- A tree with a working directory. -/
structure Disk where
  tree : Tree
  /-- The place that relative paths start from. -/
  working : Place
deriving Repr, Inhabited

namespace Disk

/-- The place where names lead to; every place that is left through a name is a directory.
The last place may be missing. -/
def walkFrom (d : Disk) (place : Place) : List String → Except SystemError Place
  | [] => .ok place
  | name :: names =>
    match d.tree.node? place with
    | none => .error .missing
    | some (.file _) => .error .notDirectory
    | some .directory =>
      if name == above then d.walkFrom place.dropLast names
      else if name.utf8ByteSize > longestName then .error .nameTooLong
      else d.walkFrom (place ++ [name]) names

/-- Whether a path has a null character. -/
def hasNull (p : Path) : Bool :=
  p.names.any fun name => name.toList.contains '\x00'

/-- The place where a path leads to. -/
def walk (d : Disk) (p : Path) : Except PathError Place :=
  if hasNull p then .error .nullCharacter
  else if p.text.utf8ByteSize ≥ longestPath then .error (.system .nameTooLong p)
  else (d.walkFrom (if p.isAbsolute then [] else d.working) p.names).mapError (.system · p)

/-- What stands where a path leads to. -/
def status (d : Disk) (p : Path) : Except PathError Node := do
  match d.tree.node? (← d.walk p) with
  | some node => .ok node
  | none => .error (.system .missing p)

/-- Whether something stands where a path leads to. -/
def exists? (d : Disk) (p : Path) : Except PathError Bool :=
  match d.status p with
  | .ok _ => .ok true
  | .error .nullCharacter => .ok false
  | .error (.system .missing _) => .ok false
  | .error (.system .notDirectory _) => .ok false
  | .error e => .error e

/-- Whether a path leads to a directory. -/
def isDirectory (d : Disk) (p : Path) : Bool :=
  match d.status p with
  | .ok .directory => true
  | _ => false

/-- Whether a path leads to a file. -/
def isFile (d : Disk) (p : Path) : Bool :=
  match d.status p with
  | .ok (.file _) => true
  | _ => false

/-- The content of the file that a path leads to. -/
def content? (d : Disk) (p : Path) : Option String :=
  match d.status p with
  | .ok (.file content) => some content
  | _ => none

/-- The disk with a directory where a path leads to; the place must be free. -/
def makeDirectory (d : Disk) (p : Path) : Except PathError Disk := do
  let place ← d.walk p
  match d.tree.node? place with
  | some _ => .error (.system .taken p)
  | none => .ok { d with tree := d.tree.put place .directory }

/-- What is left of making one directory: a place that is taken by a directory will do. -/
def settleDirectory (d : Disk) (p : Path) : Except PathError Disk → Disk × Option PathError
  | .ok made => (made, none)
  | .error .nullCharacter => (d, some .nullCharacter)
  | .error e => if d.isDirectory p then (d, none) else (d, some e)

/-- The disk with directories along a path, and why not all could be made.  Those that
exist are kept.  The first argument bounds how far upwards directories are made. -/
def makeDirectoriesUpTo : Nat → Disk → Path → Disk × Option PathError
  | 0, d, p => d.settleDirectory p (d.makeDirectory p)
  | fuel + 1, d, p =>
    match d.makeDirectory p with
    | .error (.system .missing _) =>
      match makeDirectoriesUpTo fuel d p.parent with
      | (d, none) => d.settleDirectory p (d.makeDirectory p)
      | failed => failed
    | made => d.settleDirectory p made

/-- The disk with directories along a path, and why not all could be made. -/
def makeDirectories (d : Disk) (p : Path) : Disk × Option PathError :=
  makeDirectoriesUpTo p.names.length d p

/-- The disk with a file where a path leads to.  An exclusive file must not exist. -/
def writeFile (d : Disk) (p : Path) (content : String) (exclusive : Bool) :
    Except PathError Disk := do
  let place ← d.walk p
  match d.tree.node? place with
  | some node =>
    if exclusive then .error (.system .taken p)
    else match node with
      | .directory => .error (.system .isDirectory p)
      | .file _ => .ok { d with tree := d.tree.put place (.file content) }
  | none => .ok { d with tree := d.tree.put place (.file content) }

end Disk
end Files
end TableCast
