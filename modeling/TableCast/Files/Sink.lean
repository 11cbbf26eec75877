import TableCast.Emit.Artifact
import TableCast.Fault
import TableCast.Files.Tree
import TableCast.Log.Entry

/-!
# Writing artifacts

Artifacts are written below an output root.  What happens when something stands at the
place of an artifact depends on the conflict policy; a failed write is an outcome, so that
the rest of a batch goes on.

- `ConflictPolicy`, `WriteStatus`, `Sink`, `Outcome`, `WriteStop`.
- `Sink.targetPath`: the path of an artifact, which never leaves the root.
- `Sink.write`: one artifact written.
-/

namespace TableCast
namespace Files

open Text

/-- What happens when something stands at the place of an artifact. -/
inductive ConflictPolicy where
  | failOnExists
  | forceOverwrite
  | dryRun
deriving Repr, DecidableEq, Inhabited

/-- The name of a policy. -/
def ConflictPolicy.name : ConflictPolicy → String
  | .failOnExists => "fail-on-exists"
  | .forceOverwrite => "force-overwrite"
  | .dryRun => "dry-run"

/-- The policy with the given name. -/
def ConflictPolicy.ofName? : String → Option ConflictPolicy
  | "fail-on-exists" => some .failOnExists
  | "force-overwrite" => some .forceOverwrite
  | "dry-run" => some .dryRun
  | _ => none

/-- The message about a policy that there is not. -/
def ConflictPolicy.unknownMessage (shown : String) : String :=
  shown ++ " is not a valid ConflictPolicy"

/-- What became of an artifact. -/
inductive WriteStatus where
  | written
  | skipped
  | planned
  | error
deriving Repr, DecidableEq, Inhabited

/-- The name of a status. -/
def WriteStatus.name : WriteStatus → String
  | .written => "written"
  | .skipped => "skipped"
  | .planned => "planned"
  | .error => "error"

/-- The status with the given name. -/
def WriteStatus.ofName? : String → Option WriteStatus
  | "written" => some .written
  | "skipped" => some .skipped
  | "planned" => some .planned
  | "error" => some .error
  | _ => none

/-- The outcome of a write. -/
structure Outcome where
  status : WriteStatus
  path : Path
  fault : Option Fault := none
deriving Repr, DecidableEq, Inhabited

/-- What ends a write without an outcome, with the disk that it leaves behind. -/
structure WriteStop where
  problem : Problem
  /-- The disk, with the directories that were made before. -/
  disk : Disk
deriving Repr, Inhabited

/-- A write that was ended is reported as the problem that ended it. -/
instance : Coe WriteStop Problem := ⟨WriteStop.problem⟩

/-- Where artifacts are written and what happens when something stands in their place. -/
structure Sink where
  root : Path
  policy : ConflictPolicy := .failOnExists
deriving Repr, DecidableEq, Inhabited

/-- A fault about writing a path. -/
def writeFault (path message : String) : Fault :=
  ({ kind := .fileWrite, message := message } : Fault).note "path" path

/-- The problem that a path cannot be looked at. -/
def PathError.problem : PathError → Problem
  | .system e path => .system (e.message path)
  | .nullCharacter => .badValue nullMessage

namespace Sink

/-- Fails when the output root exists and is no directory. -/
def validate (s : Sink) (d : Disk) : Except Problem Unit :=
  match d.exists? s.root with
  | .error e => .error e.problem
  | .ok found =>
    if found && !d.isDirectory s.root then
      .error (.fault (writeFault s.root.text
        ("Output path '" ++ s.root.text ++ "' exists but is not a directory")))
    else .ok ()

/-- The path of an artifact with the given path under the root. -/
def targetPath (s : Sink) (relative : String) : Except Fault Path :=
  let path := Path.ofText relative
  if path.isAbsolute || path.names.contains above then
    .error (writeFault relative
      ("Artifact path '" ++ relative ++ "' escapes the output directory"))
  else .ok { s.root with names := s.root.names ++ path.names }

/-- The log entry about an artifact that is left alone. -/
def skipEntry (path : Path) : Log.Entry :=
  Log.info ("Skipping existing file: " ++ path.text)

/-- What writing one artifact gives: the outcome, the disk afterwards and the log. -/
abbrev Written := Except WriteStop (Outcome × Disk × List Log.Entry)

/-- The artifact put in place, with directories above it. -/
def place (s : Sink) (d : Disk) (path : Path) (content : String) : Written :=
  let exclusive := s.policy == .failOnExists
  let (left, failure) := d.makeDirectories path.parent
  let result := match failure with
    | none => left.writeFile path content exclusive
    | some e => .error e
  match result with
  | .ok d => .ok ({ status := .written, path := path }, d, [])
  | .error .nullCharacter => .error { problem := .badValue nullMessage, disk := left }
  | .error (.system .taken _) =>
    .ok ({ status := .skipped, path := path }, left, [skipEntry path])
  | .error (.system e at_) =>
    let fault := writeFault path.text
      ("Could not write '" ++ path.text ++ "': " ++ e.message at_)
    .ok ({ status := .error, path := path, fault := some fault }, left, [Log.error fault.message])

/-- One artifact written under its path. -/
def write (s : Sink) (d : Disk) (relative content : String) : Written :=
  match s.targetPath relative with
  | .error fault =>
    .ok ({ status := .error, path := s.root.join (Path.ofText relative), fault := some fault }, d,
      [Log.error fault.message])
  | .ok path =>
    match s.policy with
    | .dryRun => .ok ({ status := .planned, path := path }, d, [])
    | .forceOverwrite => s.place d path content
    | .failOnExists =>
      match d.exists? path with
      | .error e => .error { problem := e.problem, disk := d }
      | .ok true => .ok ({ status := .skipped, path := path }, d, [skipEntry path])
      | .ok false => s.place d path content

end Sink
end Files
end TableCast
