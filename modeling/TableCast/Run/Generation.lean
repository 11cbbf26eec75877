import TableCast.Emit.Manifest
import TableCast.Model.Assembly
import TableCast.Run.Emission
import TableCast.Run.Source

/-!
# Generation

A run reads all selected tables, assembles their entities and emits their artifacts.  A table
that cannot be read or assembled is excluded, and the others go on; the run ends early when
its token fires.

- `Reading`, `readTables`: the tables of a run, one after the other.
- `emitEntities`: the artifacts of all entities.
- `generate`: a whole run.
- `generateFrom`: a run that configures the database framework first.
-/

namespace TableCast
namespace Run

open Schema Model Emit Files Text

/-- What stops a run from outside. -/
inductive Stop where
  | never
  /-- The token fires while a table is read. -/
  | duringRead (table : String)
  /-- The token fires right after an artifact was handed to the sink, counted from one. -/
  | afterWrites (count : Nat)
  /-- The run is interrupted when the first artifact is accounted for. -/
  | interruption
deriving Repr, DecidableEq, Inhabited

/-- The reason that the token fires for. -/
def Stop.reason : Stop → String
  | .interruption => Token.interruptedReason
  | _ => Token.callerReason

/-- The token after a table was read. -/
def Stop.onRead (stop : Stop) (name : String) (token : Token) : Token :=
  match stop with
  | .duringRead table => if table == name then token.cancel (some stop.reason) else token
  | _ => token

/-- Whether an artifact was accounted for. -/
def Message.isProcessed : Message → Bool
  | .processed _ _ => true
  | _ => false

/-- Whether what stops the emission has happened. -/
def Stop.hasHappened (stop : Stop) (e : Emission) : Bool :=
  match stop with
  | .afterWrites count => count ≤ e.shared.writes
  | .interruption => e.shared.messages.any (·.isProcessed)
  | _ => false

/-- What a source was asked, in order. -/
inductive Call where
  | opened
  | read (table : String)
  | closed
deriving Repr, DecidableEq, Inhabited

/-- The tables read so far. -/
structure Reading where
  tables : List Table := []
  failures : List (String × String) := []
  diagnostics : List Diagnostic := []
  token : Token := {}
  /-- Whether the token fired before all tables were read. -/
  cancelled : Bool := false
  /-- The problem that ended the reading. -/
  problem : Option Problem := none
  /-- What the source was asked. -/
  calls : List Call := []
  log : List Log.Entry := []
deriving Inhabited

/-- The reading with a table excluded for a fault. -/
def Reading.exclude (r : Reading) (name : String) (fault : Fault) : Reading :=
  { r with
    failures := r.failures ++ [(name, fault.message)]
    diagnostics := r.diagnostics ++ [Diagnostic.ofFault (some name) fault none]
    log := r.log ++ [Log.error ("Excluding table '" ++ name ++ "': " ++ fault.message)] }

/-- The reading with the answer to the question about a table. -/
def Reading.note (r : Reading) (name : String) : Except Problem Table → Reading
  | .ok table => { r with tables := r.tables ++ [table] }
  | .error (.fault fault) =>
    if fault.kind == .schemaRead then r.exclude name fault
    else { r with problem := some (.fault fault) }
  | .error problem => { r with problem := some problem }

/-- One more table read, unless the reading has ended. -/
def readTable (source : Source) (stop : Stop) (r : Reading) (name : String) : Reading :=
  if r.cancelled || r.problem.isSome then r
  else
    let token := r.token.look
    if token.fired then { r with token := token, cancelled := true }
    else
      let asked := { r with
        token := stop.onRead name token
        calls := r.calls ++ [Call.read name]
        log := r.log ++ Log.progress ("Introspecting table '" ++ name ++ "'...") ::
          source.tableLog name }
      asked.note name (source.table name)

/-- The tables with the given names, one after the other. -/
def readTables (source : Source) (stop : Stop) (token : Token) (names : List String) : Reading :=
  names.foldl (readTable source stop) { token := token }

/-- The emission after a schedule; the token fires as soon as that has happened which stops
the run. -/
def Emission.playWith (w : Workshop) (stop : Stop) (e : Emission) (schedule : List Turn) :
    Emission :=
  schedule.foldl (fun e turn =>
    let next := e.turn w turn
    if stop.hasHappened next && !stop.hasHappened e then next.turn w (.fire (some stop.reason))
    else next) e

/-- The artifacts of all entities, one table after the other. -/
def emitEntities (w : Workshop) (stop : Stop) (entities : List Entity) (disk : Disk)
    (token : Token) : Emission :=
  (Emission.start entities disk token).playWith w stop (Turn.oneByOne w entities)

/-- What a run leaves behind. -/
structure Generated where
  /-- The result, or the problem that ended the run. -/
  outcome : Except Problem Result
  disk : Disk
  token : Token
  calls : List Call := []
  log : List Log.Entry := []

/-- What the emission of a run leaves behind: a problem that ended a worker ends the run. -/
def emissionOutcome (stop : Stop) (e : Emission) (reading : Reading) (assembly : Assembly) :
    Except Problem Result :=
  if stop == .interruption && stop.hasHappened e then .error .interrupted
  else match e.problem? with
    | some problem => .error problem
    | none =>
      let account := e.account
      .ok (({ account with
        diagnostics := reading.diagnostics ++ assembly.diagnostics ++ account.diagnostics
        } : Account).result e.tables assembly.failures false)

/-- What is said at the end of a run. -/
def closingLog (token : Token) : Except Problem Result → List Log.Entry
  | .error _ => []
  | .ok result =>
    let count := toString result.artifacts.length
    if result.cancelled then
      [Log.warning ("Generation cancelled (" ++ token.shownReason ++ "); " ++ count ++
        " artifacts were processed")]
    else
      [Log.success ("Generation finished with status '" ++ result.status.name ++ "': " ++ count ++
        " artifacts, " ++ toString result.diagnostics.length ++ " diagnostics")]

/-- How the entities of a run are assembled. -/
def assemblerFor (set : TemplateSet) (options : Options) (dialect : Dialect) : Assembler :=
  { dialect := dialect
    normalizer := set.normalizer options.singularize
    types := options.types
    emitEnums := options.emitEnums
    generateRepository := options.generateRepository }

/-- What the workers of a run work with. -/
def workshopFor (set : TemplateSet) (options : Options) : Workshop :=
  { set := if options.formatted then set else { set with formatter := .plain }
    options := options.render
    sink := options.sink
    limit := options.workers.toNat }

/-- The rest of a run after all tables were read. -/
def assembleAndEmit (set : TemplateSet) (options : Options) (dialect : Dialect)
    (names : List String) (stop : Stop) (disk : Disk) (reading : Reading) : Generated :=
  let mapping := Log.opening "Metadata assembly" ++
    [Log.progress ("Mapping " ++ toString reading.tables.length ++ " tables to descriptors...")]
  match (assemblerFor set options dialect).assemble names reading.tables reading.failures with
  | .error halt =>
    { outcome := .error halt.error.problem, disk := disk, token := reading.token
      log := mapping ++ halt.log }
  | .ok assembly =>
    let e := emitEntities (workshopFor set options) stop assembly.entities disk reading.token
    let outcome := emissionOutcome stop e reading assembly
    { outcome := outcome, disk := e.shared.disk, token := e.shared.token
      log := mapping ++ assembly.log ++ Log.opening "Code generation" ++ e.shared.log ++
        closingLog e.shared.token outcome }

/-- The rest of a run after its tables were listed. -/
def readAndEmit (set : TemplateSet) (options : Options) (source : Source) (dialect : Dialect)
    (names : List String) (stop : Stop) (token : Token) (disk : Disk) : Generated :=
  let sorted := names.mergeSort fun a b => decide (a ≤ b)
  let reading := readTables source stop token sorted
  let said := Log.highlight ("Found " ++ toString names.length ++ " tables to generate") ::
    reading.log
  let ended (outcome : Except Problem Result) (log : List Log.Entry) : Generated :=
    { outcome := outcome, disk := disk, token := reading.token, calls := reading.calls
      log := said ++ log }
  match reading.problem with
  | some problem => ended (.error problem) []
  | none =>
    if reading.cancelled then
      ended (.ok (({ diagnostics := reading.diagnostics } : Account).result [] [] true))
        [Log.warning ("Generation cancelled during schema reads (" ++ reading.token.shownReason ++
          ")")]
    else
      let rest := assembleAndEmit set options dialect names stop disk reading
      { rest with calls := reading.calls, log := said ++ rest.log }

/-- A run with a template set. -/
def generateWith (set : TemplateSet) (options : Options) (source : Source) (stop : Stop)
    (token : Token) (disk : Disk) : Generated :=
  let opening := Log.opening "Schema introspection"
  match source.connect with
  | .error problem =>
    { outcome := .error problem, disk := disk, token := token, calls := [.opened], log := opening }
  | .ok dialect =>
    let opening := opening ++ source.connectLog
    match source.names options.selection with
    | .error problem =>
      { outcome := .error problem, disk := disk, token := token, calls := [.opened, .closed]
        log := opening }
    | .ok names =>
      let run := readAndEmit set options source dialect names stop token disk
      { run with
        calls := .opened :: run.calls ++ [.closed]
        log := opening ++ source.namesLog options.selection ++ run.log }

/-- The token of a run. -/
def tokenFor (options : Options) (token : Token) : Token :=
  match options.timeout with
  | some timeout => token.setTimeout timeout
  | none => token

/-- A whole run over a source. -/
def generate (options : Options) (source : Source) (stop : Stop) (token : Token) (disk : Disk) :
    Generated :=
  let token := tokenFor options token
  match loadTemplateSet disk options.templateSet with
  | .error problem => { outcome := .error problem, disk := disk, token := token }
  | .ok set => generateWith set options source stop token disk

/-- A run over a recorded database, with the framework and what it was configured with. -/
structure Database where
  recording : Catalog.Recording
  framework : Settings.Framework := {}

/-- A whole run over a database: the framework is configured first if there is something to
configure it with. -/
def generateFrom (options : Options) (database : Database) (stop : Stop) (token : Token)
    (disk : Disk) : Generated × Option Settings.FrameworkSettings :=
  let token := tokenFor options token
  let source := Source.ofReader database.recording options.connection
  match loadTemplateSet disk options.templateSet with
  | .error problem => ({ outcome := .error problem, disk := disk, token := token }, none)
  | .ok set =>
    if options.databases.isEmpty then
      (generateWith set options source stop token disk, none)
    else
      let (settings, _) := database.framework.setUp options.databases options.secret
      let said := database.framework.setUpLog options.databases
      match settings with
      | .error fault =>
        ({ outcome := .error (.fault fault), disk := disk, token := token, log := said }, none)
      | .ok settings =>
        let run := generateWith set options source stop token disk
        ({ run with log := said ++ run.log }, settings)

end Run
end TableCast
