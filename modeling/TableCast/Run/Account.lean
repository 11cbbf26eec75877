import TableCast.Run.Result

/-!
# The account of a run

The workers of a run put messages on one queue, and the account is made from the messages
in the order in which they stand there.  A result is sorted, so that it tells nothing about
how the workers took turns.

- `Message`, `Account`.
- `Account.take`, `Account.collect`: one message, and messages until every table is
  finished.
- `Account.result`: the account, sorted.
-/

namespace TableCast
namespace Run

open Emit Model

/-- What a worker reports about its table. -/
inductive Message where
  | processed (record : ArtifactRecord) (diagnostic : Option Diagnostic)
  /-- The table is cut short. -/
  | cut (table : String)
  | finished (table : String)
deriving Repr, DecidableEq, Inhabited

/-- What is known about a run. -/
structure Account where
  /-- The records of artifacts, in the order in which they came. -/
  artifacts : List ArtifactRecord := []
  /-- What was noted, in the order in which it came. -/
  diagnostics : List Diagnostic := []
  /-- The tables that were cut short. -/
  cut : List String := []
  pending : List String := []
deriving Repr, DecidableEq, Inhabited

/-- The order of records: by table, kind and name. -/
def compareRecords : ArtifactRecord → ArtifactRecord → Ordering :=
  compareLex (compareOn (·.table)) (compareLex (compareOn (·.kind.rank)) (compareOn (·.name)))

/-- The order of diagnostics: by table, severity, code, artifact and message. -/
def compareDiagnostics : Diagnostic → Diagnostic → Ordering :=
  compareLex (compareOn (·.table.getD ""))
    (compareLex (compareOn (·.severity.name))
      (compareLex (compareOn (·.code))
        (compareLex (compareOn (·.artifact.getD "")) (compareOn (·.message)))))

/-- The order of tables: by name. -/
def compareTables : TableStatus → TableStatus → Ordering := compareOn (·.table)

namespace Account

/-- The account after one more message. -/
def take (a : Account) : Message → Account
  | .processed record diagnostic =>
    { a with
      artifacts := a.artifacts ++ [record], diagnostics := a.diagnostics ++ diagnostic.toList }
  | .cut table => { a with cut := a.cut ++ [table] }
  | .finished table => { a with pending := a.pending.filter (· != table) }

/-- The account after the messages that come until every table is finished, and the
messages behind them. -/
def collect (a : Account) : List Message → Account × List Message
  | [] => (a, [])
  | message :: rest =>
    if a.pending.isEmpty then (a, message :: rest) else (a.take message).collect rest

/-- The reason of a table that was cut short. -/
def cutReason : String := "cancelled"

/-- What became of a table that was emitted. -/
def statusOf (a : Account) (table : String) : TableStatus :=
  if a.cut.contains table then { table := table, succeeded := false, reason := some cutReason }
  else { table := table, succeeded := true }

/-- What became of a table that was excluded. -/
def excludedStatus (table reason : String) : TableStatus :=
  { table := table, succeeded := false, reason := some reason }

/-- The result of a run over the emitted tables, with the tables that were excluded. -/
def result (a : Account) (emitted : List String) (excluded : List (String × String))
    (cancelled : Bool) : Result :=
  let tables := (excluded.map fun (table, reason) => excludedStatus table reason) ++
    emitted.map a.statusOf
  { artifacts := a.artifacts.mergeSort fun r s => (compareRecords r s).isLE
    tables := tables.mergeSort fun s t => (compareTables s t).isLE
    diagnostics := a.diagnostics.mergeSort fun c d => (compareDiagnostics c d).isLE
    cancelled := cancelled || emitted.any a.cut.contains }

end Account
end Run
end TableCast
