import TableCast.Run.Result
import TableCast.Text.Pieces

/-!
# The summary of a run

What the command prints when a run has ended: the artifacts and the diagnostics in columns,
and one line about the whole.

- `summary`: the lines.
- `exitCode`: the number that the command ends with.
-/

namespace TableCast
namespace Command

open Run Text

/-- The number that the command ends with. -/
def exitCode : Status → Nat
  | .success => 0
  | .failure => 1
  | .partialFailure => 2
  | .cancelled => 130

/-- The width of the names of kinds. -/
def kindWidth : Nat := 10

/-- The width of the names of severities. -/
def severityWidth : Nat := 7

/-- The width of codes. -/
def codeWidth : Nat := 28

/-- The line of an artifact; the first column is as wide as given. -/
def recordLine (width : Nat) (r : ArtifactRecord) : String :=
  "  " ++ padRight r.status.name width ++ "  " ++ padRight r.kind.name kindWidth ++ "  " ++ r.path

/-- A text, or nothing if it is empty. -/
def filled (text : Option String) : Option String := text.filter (!·.isEmpty)

/-- What a diagnostic is about. -/
def subject (d : Model.Diagnostic) : String :=
  let table := (filled d.table).getD "-"
  match filled d.artifact with
  | some artifact => table ++ "/" ++ artifact
  | none => table

/-- The line of a diagnostic. -/
def diagnosticLine (d : Model.Diagnostic) : String :=
  "  " ++ padRight d.severity.name severityWidth ++ "  " ++ padRight d.code codeWidth ++ "  " ++
    subject d ++ ": " ++ d.message

/-- How many diagnostics have a severity. -/
def countOf (r : Result) (severity : Model.Severity) : String :=
  toString (r.diagnostics.filter (·.severity == severity)).length

/-- The line about the whole run. -/
def statusLine (r : Result) : String :=
  "Status: " ++ r.status.name ++ " | tables: " ++ toString r.succeededTables.length ++ " ok, " ++
    toString r.failedTables.length ++ " failed | artifacts: " ++ toString r.artifacts.length ++
    " | warnings: " ++ countOf r .warning ++ " | errors: " ++ countOf r .error

/-- The lines of the summary. -/
def summary (r : Result) : List String :=
  let width := (r.artifacts.map (·.status.name.length)).foldl max 0
  (if r.artifacts.isEmpty then [] else "Artifacts:" :: r.artifacts.map (recordLine width)) ++
    (if r.diagnostics.isEmpty then [] else "Diagnostics:" :: r.diagnostics.map diagnosticLine) ++
    [statusLine r]

end Command
end TableCast
