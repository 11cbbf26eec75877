import TableCast.Emit.Artifact
import TableCast.Files.Sink
import TableCast.Model.Record

/-!
# Results of runs

What became of every artifact and of every table of a run, and what was noted meanwhile.

- `ArtifactRecord`, `TableStatus`, `Result`.
- `Result.status`: the outcome of the run as a whole.
- `Result.document`: the result as a document.
-/

namespace TableCast
namespace Run

open Emit Files Model

/-- What became of an artifact. -/
structure ArtifactRecord where
  kind : ArtifactKind
  name : String
  path : String
  status : WriteStatus
  table : String
  content : String := ""
deriving Repr, DecidableEq, Inhabited

/-- What became of a table. -/
structure TableStatus where
  table : String
  /-- Whether all of its artifacts were processed. -/
  succeeded : Bool
  reason : Option String := none
deriving Repr, DecidableEq, Inhabited

/-- The outcomes of runs. -/
inductive Status where
  | success
  | partialFailure
  | failure
  | cancelled
deriving Repr, DecidableEq, Inhabited

/-- The name of an outcome. -/
def Status.name : Status → String
  | .success => "success"
  | .partialFailure => "partial_failure"
  | .failure => "failure"
  | .cancelled => "cancelled"

/-- The result of a run. -/
structure Result where
  artifacts : List ArtifactRecord := []
  tables : List TableStatus := []
  diagnostics : List Diagnostic := []
  cancelled : Bool := false
deriving Repr, DecidableEq, Inhabited

namespace Result

/-- The outcome of the run as a whole. -/
def status (r : Result) : Status :=
  if r.cancelled then .cancelled
  else if !r.tables.isEmpty && r.tables.all (!·.succeeded) then .failure
  else if r.tables.any (!·.succeeded) || r.artifacts.any (·.status == .error) ||
      r.diagnostics.any (·.severity == .error) then .partialFailure
  else .success

/-- The names of the tables that succeeded. -/
def succeededTables (r : Result) : List String :=
  (r.tables.filter (·.succeeded)).map (·.table)

/-- The names of the tables that failed. -/
def failedTables (r : Result) : List String :=
  (r.tables.filter (!·.succeeded)).map (·.table)

/-- The artifacts of a kind. -/
def ofKind (r : Result) (kind : ArtifactKind) : List ArtifactRecord :=
  r.artifacts.filter (·.kind == kind)

end Result

/-- A record of an artifact as a document, without its text. -/
def ArtifactRecord.document (r : ArtifactRecord) : Document :=
  Document.record [("kind", .str r.kind.name), ("logical_name", .str r.name), ("path", .str r.path),
    ("status", .str r.status.name), ("table_name", .str r.table)]

/-- The status of a table as a document. -/
def TableStatus.document (t : TableStatus) : Document :=
  Document.record [("table_name", .str t.table), ("succeeded", .bool t.succeeded),
    ("reason", Document.optionalText t.reason)]

/-- The result as a document. -/
def Result.document (r : Result) : Document :=
  Document.record [("status", .str r.status.name),
    ("artifacts", .list (r.artifacts.map ArtifactRecord.document)),
    ("tables", .list (r.tables.map TableStatus.document)),
    ("diagnostics", .list (r.diagnostics.map Diagnostic.document))]

end Run
end TableCast
