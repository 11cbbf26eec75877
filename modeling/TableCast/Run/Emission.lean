import TableCast.Emit.Emitter
import TableCast.Run.Account
import TableCast.Run.Token

/-!
# Emission of tables

Each table has a worker of its own, which renders and writes its artifacts one after the
other.  Workers take turns in any way; a schedule is a list of turns.  A worker looks at the
token before each artifact, and an artifact that it has started is completed.

- `Phase`, `Worker`, `Emission`: where a worker stands, and all workers with what they share.
- `Emission.turn`, `Emission.play`: one turn, and a schedule of turns.
- `Turn.oneByOne`: the schedule that emits one table after the other.
-/

namespace TableCast
namespace Run

open Emit Files Model

/-- What every worker of a run works with. -/
structure Workshop where
  set : TemplateSet
  options : RenderOptions := {}
  sink : Sink
  /-- How many tables are emitted at a time. -/
  limit : Nat := 1

/-- Where a worker stands. -/
inductive Phase where
  /-- The worker has not begun. -/
  | waiting
  /-- The worker is about to look at the token, with these artifacts before it. -/
  | ready (plans : List Plan)
  /-- The worker has started an artifact, with these artifacts behind it. -/
  | busy (plan : Plan) (plans : List Plan)
  /-- The worker is about to report that nothing more comes, after a problem if there was one. -/
  | leaving (problem : Option Problem)
  /-- The worker is done. -/
  | gone (problem : Option Problem)
deriving Inhabited

/-- Whether a worker has begun and is not done. -/
def Phase.isActive : Phase → Bool
  | .waiting => false
  | .gone _ => false
  | _ => true

/-- Whether a worker is done. -/
def Phase.isGone : Phase → Bool
  | .gone _ => true
  | _ => false

/-- The worker of a table. -/
structure Worker where
  entity : Entity
  phase : Phase := .waiting
deriving Inhabited

/-- What workers share. -/
structure Shared where
  disk : Disk
  token : Token := {}
  messages : List Message := []
  /-- How many artifacts were handed to the sink. -/
  writes : Nat := 0
  log : List Log.Entry := []
deriving Inhabited

/-- The shared state with one more message. -/
def Shared.say (s : Shared) (message : Message) : Shared :=
  { s with messages := s.messages ++ [message] }

/-- All workers with what they share. -/
structure Emission where
  /-- The workers, in the order of their tables. -/
  workers : List Worker
  shared : Shared
deriving Inhabited

/-- A turn in a schedule. -/
inductive Turn where
  | fire (reason : Option String)
  /-- The worker with this number takes a step. -/
  | step (worker : Nat)
deriving Repr, DecidableEq, Inhabited

/-- The record of an artifact whose template fails. -/
def failedRecord (w : Workshop) (plan : Plan) : ArtifactRecord :=
  { kind := plan.kind
    name := plan.name
    path := (w.sink.root.join (Path.ofText (w.set.relativePath plan.kind plan.name))).text
    status := .error
    table := plan.entity.name }

/-- The record of an artifact that was handed to the sink. -/
def writtenRecord (artifact : Artifact) (outcome : Outcome) : ArtifactRecord :=
  { kind := artifact.kind
    name := artifact.name
    path := outcome.path.text
    status := outcome.status
    table := artifact.table
    content := artifact.content }

/-- The error diagnostic of an artifact. -/
def artifactDiagnostic (plan : Plan) (fault : Fault) : Diagnostic :=
  Diagnostic.ofFault (some plan.entity.name) fault (some plan.name)

/-- One artifact rendered and written, and the problem that ends its worker. -/
def process (w : Workshop) (s : Shared) (plan : Plan) : Shared × Option Problem :=
  match renderPlan w.set w.options plan with
  | .error fault =>
    (({ s with log := s.log ++ [Log.error fault.message] } : Shared).say
      (.processed (failedRecord w plan) (some (artifactDiagnostic plan fault))), none)
  | .ok artifact =>
    match w.sink.write s.disk artifact.path artifact.content with
    | .error stop => ({ s with disk := stop.disk, writes := s.writes + 1 }, some stop)
    | .ok (outcome, disk, log) =>
      (({ s with disk := disk, writes := s.writes + 1, log := s.log ++ log } : Shared).say
        (.processed (writtenRecord artifact outcome) (outcome.fault.map (artifactDiagnostic plan))),
        none)

/-- One step of the worker of a table. -/
def advance (w : Workshop) (entity : Entity) (s : Shared) : Phase → Phase × Shared
  | .waiting => (.ready (plan w.set w.options entity), s)
  | .ready [] => (.leaving none, s)
  | .ready (p :: rest) =>
    let seen := { s with token := s.token.look }
    if seen.token.fired then (.leaving none, seen.say (.cut entity.name)) else (.busy p rest, seen)
  | .busy p rest =>
    match process w s p with
    | (s, none) => (.ready rest, s)
    | (s, some problem) => (.leaving (some problem), s)
  | .leaving problem => (.gone problem, s.say (.finished entity.name))
  | .gone problem => (.gone problem, s)

namespace Emission

/-- All workers before they begin. -/
def start (entities : List Entity) (disk : Disk) (token : Token) : Emission :=
  { workers := entities.map fun e => { entity := e }, shared := { disk := disk, token := token } }

/-- Whether one more worker may begin. -/
def hasRoom (w : Workshop) (e : Emission) : Bool :=
  (e.workers.filter (·.phase.isActive)).length < w.limit

/-- Whether a worker may take a step. -/
def mayStep (w : Workshop) (e : Emission) : Phase → Bool
  | .waiting => e.hasRoom w
  | _ => true

/-- The emission after one turn. -/
def turn (w : Workshop) (e : Emission) : Turn → Emission
  | .fire reason => { e with shared := { e.shared with token := e.shared.token.cancel reason } }
  | .step i =>
    match e.workers[i]? with
    | none => e
    | some worker =>
      if e.mayStep w worker.phase then
        let (phase, shared) := advance w worker.entity e.shared worker.phase
        { workers := e.workers.set i { worker with phase := phase }, shared := shared }
      else e

/-- The emission after a schedule of turns. -/
def play (w : Workshop) (e : Emission) (schedule : List Turn) : Emission :=
  schedule.foldl (turn w) e

/-- Whether every worker is done. -/
def isOver (e : Emission) : Bool := e.workers.all (·.phase.isGone)

/-- The problem of the first worker that ended with one. -/
def problem? (e : Emission) : Option Problem :=
  e.workers.findSome? fun worker => match worker.phase with
    | .gone problem => problem
    | _ => none

/-- The names of the tables. -/
def tables (e : Emission) : List String := e.workers.map (·.entity.name)

/-- The account of all messages. -/
def account (e : Emission) : Account :=
  (Account.collect { pending := e.tables } e.shared.messages).1

end Emission

/-- How many steps the worker of an entity takes: one to begin, two for each artifact, and two
to leave. -/
def stepsFor (w : Workshop) (entity : Entity) : Nat :=
  2 * (plan w.set w.options entity).length + 3

/-- The turns of each worker, one worker after the other, counted from a number. -/
def turnsFrom (w : Workshop) (i : Nat) : List Entity → List Turn
  | [] => []
  | e :: rest => List.replicate (stepsFor w e) (.step i) ++ turnsFrom w (i + 1) rest

/-- The schedule that emits one table after the other. -/
def Turn.oneByOne (w : Workshop) (entities : List Entity) : List Turn :=
  turnsFrom w 0 entities

end Run
end TableCast
