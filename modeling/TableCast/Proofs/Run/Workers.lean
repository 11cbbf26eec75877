import TableCast.Run.Generation
import TableCast.Proofs.Files.Writes
import TableCast.Proofs.Model.Exclusions
import TableCast.Proofs.Run.Interleaving
import TableCast.Proofs.Run.Readings

/-!
# Workers at any moment of a schedule

Whatever turns are taken, the messages about a table are those of the artifacts that its worker
has completed, in the order of its plan.

**Invariants.**  `Stands` ties the place where a worker stands to what it has reported, and
`Emission.Sound` says so of all workers at once.  `Stands.advance_of_fine` is the step of one
worker, `Sound.turn` one turn and `Sound.play` a whole schedule.

**Results.**
* `process_records`: what one artifact brings into the messages.
* `Sound.play`, `Calm.play`: what every schedule keeps, and what one of steps alone keeps.
* `isOver_emitEntities`: the emission of a run ends every worker, whatever stops it.
* `isOver_oneByOne`: when nothing does, no table is cut short.
-/

namespace TableCast
namespace Run

open Emit Files Model

section Artifacts

variable {w : Workshop} {entities : List Entity} {disk : Disk} {s : Shared} {p : Plan}

theorem entity_of_mem_plan {e : Entity} (h : p ∈ plan w.set w.options e) : p.entity = e := by
  simp only [plan, List.mem_append, List.mem_singleton] at h
  rcases h with (rfl | h) | h
  · rfl
  · split_ifs at h
    · rw [List.mem_singleton.mp h]
    · exact absurd h List.not_mem_nil
  · split_ifs at h
    · obtain ⟨t, -, rfl⟩ := List.mem_map.mp h
      rfl
    · exact absurd h List.not_mem_nil

/-- Whether a record with its diagnostic is what became of a planned artifact.  A template that
fails leaves a record in error. -/
structure Records (w : Workshop) (p : Plan) (o : ArtifactRecord × Option Diagnostic) : Prop where
  kind : o.1.kind = p.kind
  name : o.1.name = p.name
  table : o.1.table = p.entity.name
  failed : ∀ fault, renderPlan w.set w.options p = .error fault → o.1.status = .error
  noted : o.2.isSome = true ↔ o.1.status = .error
  diagnostic : ∀ d ∈ o.2, d.table = some p.entity.name ∧ d.isError = true

namespace Workshop

/-- The disks that writing artifacts of the entities can leave behind, in any order. -/
inductive Leaves (w : Workshop) (entities : List Entity) (disk : Disk) : Disk → Prop
  | start : Leaves w entities disk disk
  | write {d d' : Disk} {e : Entity} {p : Plan} {artifact : Artifact} {outcome : Outcome}
      {log : List Log.Entry} (h : Leaves w entities disk d) (he : e ∈ entities)
      (hp : p ∈ plan w.set w.options e)
      (hrender : renderPlan w.set w.options p = .ok artifact)
      (hwrite : w.sink.write d artifact.path artifact.content = .ok (outcome, d', log)) :
      Leaves w entities disk d'

/-- The sink returns an outcome for each write of an artifact of the entities, whatever was
written before. -/
def Serves (w : Workshop) (entities : List Entity) (disk : Disk) : Prop :=
  ∀ d, w.Leaves entities disk d → ∀ e ∈ entities, ∀ p ∈ plan w.set w.options e, ∀ artifact,
    renderPlan w.set w.options p = .ok artifact →
    ∃ outcome d' log, w.sink.write d artifact.path artifact.content = .ok (outcome, d', log)

/-- When nothing is written at all, every write has an outcome. -/
theorem serves_of_dryRun (entities : List Entity) (disk : Disk) (h : w.sink.policy = .dryRun) :
    w.Serves entities disk := by
  intro d _ e _ p _ artifact _
  rw [Sink.write, h]
  cases w.sink.targetPath artifact.path with
  | error fault => exact ⟨_, _, _, rfl⟩
  | ok path => exact ⟨_, _, _, rfl⟩

end Workshop

theorem renderPlan_ok {artifact : Artifact} (h : renderPlan w.set w.options p = .ok artifact) :
    artifact.kind = p.kind ∧ artifact.name = p.name ∧ artifact.table = p.entity.name := by
  obtain ⟨text, -, hartifact⟩ := Fallible.bind_eq_ok.mp h
  rw [← Fallible.pure_eq_ok.mp hartifact]
  exact ⟨rfl, rfl, rfl⟩

/-- An artifact that is processed brings one record, and a diagnostic when it is in error, unless a
problem ends its worker. -/
theorem process_records {s' : Shared} {e : Entity} (he : e ∈ entities)
    (hp : p ∈ plan w.set w.options e) (hdisk : w.Leaves entities disk s.disk)
    (hprocess : process w s p = (s', none)) :
    ∃ o, Records w p o ∧ s'.messages = s.messages ++ [.processed o.1 o.2] ∧ s'.token = s.token ∧
      w.Leaves entities disk s'.disk := by
  unfold process at hprocess
  cases hrender : renderPlan w.set w.options p with
  | error fault =>
      rw [hrender] at hprocess
      obtain ⟨rfl, -⟩ := Prod.mk.inj hprocess
      refine ⟨(failedRecord w p, some (artifactDiagnostic p fault)),
        ⟨rfl, rfl, rfl, fun _ _ => rfl, ⟨fun _ => rfl, fun _ => rfl⟩, ?_⟩, rfl, rfl, hdisk⟩
      intro d hd
      rw [← Option.some.inj hd]
      exact ⟨rfl, rfl⟩
  | ok artifact =>
      obtain ⟨hkind, hname, htable⟩ := renderPlan_ok hrender
      simp only [hrender] at hprocess
      cases hwrite : w.sink.write s.disk artifact.path artifact.content with
      | error stop =>
          rw [hwrite] at hprocess
          cases (Prod.mk.inj hprocess).2
      | ok written =>
          obtain ⟨outcome, d', log⟩ := written
          rw [hwrite] at hprocess
          obtain ⟨rfl, -⟩ := Prod.mk.inj hprocess
          refine ⟨(writtenRecord artifact outcome, outcome.fault.map (artifactDiagnostic p)),
            ⟨hkind, hname, htable, ?_, ?_, ?_⟩, rfl, rfl, hdisk.write he hp hrender hwrite⟩
          · intro fault hfault
            rw [hrender] at hfault
            cases hfault
          · rw [Option.isSome_map]
            exact Sink.fault_isSome_iff_of_write hwrite
          · intro d hd
            obtain ⟨fault, -, rfl⟩ := Option.map_eq_some_iff.mp hd
            exact ⟨rfl, rfl⟩

/-- No problem ends the worker of an artifact when the sink returns an outcome for each write. -/
theorem process_of_serves {e : Entity} (hserves : w.Serves entities disk) (he : e ∈ entities)
    (hp : p ∈ plan w.set w.options e) (hdisk : w.Leaves entities disk s.disk) :
    ∃ s', process w s p = (s', none) := by
  unfold process
  cases hrender : renderPlan w.set w.options p with
  | error fault => exact ⟨_, rfl⟩
  | ok artifact =>
      obtain ⟨outcome, d', log, hwrite⟩ := hserves s.disk hdisk e he p hp artifact hrender
      simp only [hwrite]
      exact ⟨_, rfl⟩

end Artifacts

section Workers

variable {w : Workshop} {entities : List Entity} {disk : Disk} {entity : Entity}
variable {s : Shared} {phase : Phase} {ms : List Message}

/-- The messages about artifacts that were processed. -/
def reported (outcomes : List (ArtifactRecord × Option Diagnostic)) : List Message :=
  outcomes.map fun o => .processed o.1 o.2

theorem reported_concat (outcomes : List (ArtifactRecord × Option Diagnostic))
    (o : ArtifactRecord × Option Diagnostic) :
    reported (outcomes ++ [o]) = reported outcomes ++ [.processed o.1 o.2] := List.map_append

/-- Where a worker can stand once it has reported these messages.  What it has reported is what
became of the first artifacts of its plan. -/
inductive Stands (w : Workshop) (entity : Entity) : Phase → List Message → Prop
  | waiting : Stands w entity .waiting []
  | ready {done rest : List Plan} {outcomes : List (ArtifactRecord × Option Diagnostic)}
      (hplan : plan w.set w.options entity = done ++ rest)
      (h : List.Forall₂ (Records w) done outcomes) :
      Stands w entity (.ready rest) (reported outcomes)
  | busy {done rest : List Plan} {p : Plan}
      {outcomes : List (ArtifactRecord × Option Diagnostic)}
      (hplan : plan w.set w.options entity = done ++ p :: rest)
      (h : List.Forall₂ (Records w) done outcomes) :
      Stands w entity (.busy p rest) (reported outcomes)
  | complete {outcomes : List (ArtifactRecord × Option Diagnostic)}
      (h : List.Forall₂ (Records w) (plan w.set w.options entity) outcomes) :
      Stands w entity (.leaving none) (reported outcomes)
  | cut {done rest : List Plan} {p : Plan}
      {outcomes : List (ArtifactRecord × Option Diagnostic)}
      (hplan : plan w.set w.options entity = done ++ p :: rest)
      (h : List.Forall₂ (Records w) done outcomes) :
      Stands w entity (.leaving none) (reported outcomes ++ [.cut entity.name])
  | gone {ms : List Message} (h : Stands w entity (.leaving none) ms) :
      Stands w entity (.gone none) (ms ++ [.finished entity.name])

/-- What a step of the worker of an entity changes in what all workers share. -/
structure Reports (w : Workshop) (entities : List Entity) (disk : Disk) (entity : Entity)
    (s s' : Shared) (new : List Message) : Prop where
  messages : s'.messages = s.messages ++ new
  own : ∀ m ∈ new, m.table = entity.name
  disk : w.Leaves entities disk s'.disk
  calm : s.token.look.fired = false → s'.token = s.token ∧ ∀ m ∈ new, m.cut? = none

theorem Reports.nothing {s' : Shared} (hmessages : s'.messages = s.messages)
    (hdisk : w.Leaves entities disk s'.disk)
    (htoken : s.token.look.fired = false → s'.token = s.token) :
    Reports w entities disk entity s s' [] :=
  ⟨by rw [hmessages, List.append_nil], fun _ hm => absurd hm List.not_mem_nil, hdisk,
    fun hcalm => ⟨htoken hcalm, fun _ hm => absurd hm List.not_mem_nil⟩⟩

theorem Reports.one {s' : Shared} {m : Message} (hmessages : s'.messages = s.messages ++ [m])
    (hown : m.table = entity.name) (hdisk : w.Leaves entities disk s'.disk)
    (hcalm : s.token.look.fired = false → s'.token = s.token ∧ m.cut? = none) :
    Reports w entities disk entity s s' [m] :=
  ⟨hmessages, List.forall_mem_singleton.mpr hown, hdisk,
    fun h => ⟨(hcalm h).1, List.forall_mem_singleton.mpr (hcalm h).2⟩⟩

/-- The problem that a worker ends or has ended with. -/
def Phase.problem? : Phase → Option Problem
  | .leaving problem => problem
  | .gone problem => problem
  | _ => none

theorem Stands.problem?_eq (h : Stands w entity phase ms) : phase.problem? = none := by
  cases h with
  | gone hleft => cases hleft <;> rfl
  | _ => rfl

/-- A step of a worker that no problem ends adds messages about its own table only, and keeps it
where it can stand. -/
theorem Stands.advance_of_fine
    (h : Stands w entity phase ms) (he : entity ∈ entities)
    (hdisk : w.Leaves entities disk s.disk)
    (hfine : (Run.advance w entity s phase).1.problem? = none) :
    ∃ new, Reports w entities disk entity s (Run.advance w entity s phase).2 new ∧
      Stands w entity (Run.advance w entity s phase).1 (ms ++ new) := by
  cases h with
  | waiting => exact ⟨[], .nothing rfl hdisk fun _ => rfl, .ready (List.nil_append _).symm .nil⟩
  | @ready done rest outcomes hplan hdone =>
      cases rest with
      | nil =>
          rw [List.append_nil] at hplan
          refine ⟨[], .nothing rfl hdisk fun _ => rfl, ?_⟩
          rw [List.append_nil]
          exact .complete (hplan ▸ hdone)
      | cons p rest =>
          simp only [Run.advance]
          split_ifs with hfired
          · refine ⟨[.cut entity.name], .one rfl rfl hdisk fun hcalm => ?_, .cut hplan hdone⟩
            rw [hcalm] at hfired
            cases hfired
          · refine ⟨[], .nothing rfl hdisk look_of_calm, ?_⟩
            rw [List.append_nil]
            exact .busy hplan hdone
  | @busy done rest p outcomes hplan hdone =>
      have hp : p ∈ plan w.set w.options entity := hplan ▸ List.mem_append_right _ List.mem_cons_self
      rcases hprocess : process w s p with ⟨s', problem⟩
      cases problem with
      | some problem =>
          simp only [Run.advance, hprocess, Phase.problem?] at hfine
          cases hfine
      | none =>
          obtain ⟨o, hrecords, hmessages, htoken, hdisk'⟩ := process_records he hp hdisk hprocess
          have hown : (Message.processed o.1 o.2).table = entity.name :=
            hrecords.table.trans (congrArg _ (entity_of_mem_plan hp))
          simp only [Run.advance, hprocess]
          refine ⟨[.processed o.1 o.2], .one hmessages hown hdisk' fun _ => ⟨htoken, rfl⟩, ?_⟩
          have hnext : plan w.set w.options entity = (done ++ [p]) ++ rest := by
            rw [hplan, List.append_assoc, List.singleton_append]
          rw [← reported_concat]
          exact .ready hnext (List.rel_append hdone (.cons hrecords .nil))
  | complete hdone =>
      exact ⟨[.finished entity.name], .one rfl rfl hdisk fun _ => ⟨rfl, rfl⟩, .gone (.complete hdone)⟩
  | cut hplan hdone =>
      exact ⟨[.finished entity.name], .one rfl rfl hdisk fun _ => ⟨rfl, rfl⟩, .gone (.cut hplan hdone)⟩
  | gone hleft =>
      refine ⟨[], .nothing rfl hdisk fun _ => rfl, ?_⟩
      rw [List.append_nil]
      exact .gone hleft

/-- No problem ends a worker when the sink returns an outcome for each write. -/
theorem Stands.fine_of_serves
    (h : Stands w entity phase ms) (hserves : w.Serves entities disk) (he : entity ∈ entities)
    (hdisk : w.Leaves entities disk s.disk) :
    (Run.advance w entity s phase).1.problem? = none := by
  cases h with
  | waiting => rfl
  | @ready done rest outcomes hplan hdone =>
      cases rest with
      | nil => rfl
      | cons p rest =>
          simp only [Run.advance]
          split_ifs <;> rfl
  | @busy done rest p outcomes hplan hdone =>
      have hp : p ∈ plan w.set w.options entity := hplan ▸ List.mem_append_right _ List.mem_cons_self
      obtain ⟨s', hprocess⟩ := process_of_serves hserves he hp hdisk
      simp only [Run.advance, hprocess, Phase.problem?]
  | complete hdone => rfl
  | cut hplan hdone => rfl
  | gone hleft => rfl

end Workers

namespace Emission

section Turns

variable {w : Workshop} {entities : List Entity} {disk : Disk} {token : Token}
variable {e : Emission} {worker : Worker} {i : Nat}

/-- The emission after a step of a worker. -/
def stepped (w : Workshop) (e : Emission) (i : Nat) (worker : Worker) : Emission :=
  { workers := e.workers.set i
      { worker with phase := (advance w worker.entity e.shared worker.phase).1 }
    shared := (advance w worker.entity e.shared worker.phase).2 }

theorem turn_step (hworker : e.workers[i]? = some worker)
    (hmay : e.mayStep w worker.phase = true) :
    e.turn w (.step i) = e.stepped w i worker := by
  simp only [turn, hworker, hmay, if_true, stepped]

theorem turn_step_cases (w : Workshop) (e : Emission) (i : Nat) :
    e.turn w (.step i) = e ∨
      ∃ worker, e.workers[i]? = some worker ∧ e.turn w (.step i) = e.stepped w i worker := by
  cases hworker : e.workers[i]? with
  | none =>
      left
      simp only [turn, hworker]
  | some worker =>
      by_cases hmay : e.mayStep w worker.phase = true
      · exact .inr ⟨worker, rfl, turn_step hworker hmay⟩
      · left
        simp only [turn, hworker, if_neg hmay]

theorem map_entity_stepped (hworker : e.workers[i]? = some worker) :
    (e.stepped w i worker).workers.map (·.entity) = e.workers.map (·.entity) := by
  obtain ⟨hlength, rfl⟩ := List.getElem?_eq_some_iff.mp hworker
  have hlength' : i < (e.workers.map (·.entity)).length := by rwa [List.length_map]
  have hentity : (e.workers.map (·.entity))[i] = e.workers[i].entity := List.getElem_map _
  rw [stepped, List.map_set, ← hentity, List.set_getElem_self]

/-- What every schedule keeps: each worker stands where its messages say. -/
structure Sound (w : Workshop) (entities : List Entity) (disk : Disk) (e : Emission) : Prop where
  workers : e.workers.map (·.entity) = entities
  disk : w.Leaves entities disk e.shared.disk
  owned : ∀ m ∈ e.shared.messages, m.table ∈ entities.map (·.name)
  stands : ∀ worker ∈ e.workers, Stands w worker.entity worker.phase
    (e.shared.messages.filter (·.table == worker.entity.name))

theorem Sound.start (w : Workshop) (entities : List Entity) (disk : Disk) (token : Token) :
    Sound w entities disk (start entities disk token) := by
  refine ⟨?_, .start, fun m hm => absurd hm List.not_mem_nil, ?_⟩
  · rw [Emission.start, List.map_map]
    exact List.map_id entities
  · intro worker hworker
    obtain ⟨entity, -, rfl⟩ := List.mem_map.mp hworker
    exact .waiting

theorem Sound.tables_eq (hsound : Sound w entities disk e) : e.tables = entities.map (·.name) := by
  rw [tables, ← hsound.workers, List.map_map]
  rfl

theorem Sound.entity_mem (h : Sound w entities disk e) (hworker : worker ∈ e.workers) :
    worker.entity ∈ entities := by
  rw [← h.workers]
  exact List.mem_map_of_mem hworker

/-- Workers at different places have tables with different names. -/
theorem Sound.name_ne
    (h : Sound w entities disk e) (hnames : (entities.map (·.name)).Nodup) {j : Nat}
    {other : Worker} (hworker : e.workers[i]? = some worker) (hother : e.workers[j]? = some other)
    (hij : i ≠ j) : worker.entity.name ≠ other.entity.name := by
  intro hname
  have hat : ∀ {k : Nat} {x : Worker}, e.workers[k]? = some x →
      (entities.map (·.name))[k]? = some x.entity.name := by
    intro k x hx
    rw [← h.workers, List.map_map, List.getElem?_map, hx]
    rfl
  have hlength := (List.getElem?_eq_some_iff.mp (hat hworker)).1
  exact hij ((List.getElem?_inj hlength hnames).mp
    ((hat hworker).trans (hname ▸ (hat hother).symm)))

/-- A step of a worker that no problem ends, and what it adds to the messages. -/
theorem Sound.stepped_of_fine
    (h : Sound w entities disk e) (hnames : (entities.map (·.name)).Nodup)
    (hworker : e.workers[i]? = some worker)
    (hfine : (advance w worker.entity e.shared worker.phase).1.problem? = none) :
    Sound w entities disk (e.stepped w i worker) ∧
      ∃ new, Reports w entities disk worker.entity e.shared (e.stepped w i worker).shared new := by
  have hmem := List.mem_of_getElem? hworker
  obtain ⟨new, hreports, hstands⟩ :=
    (h.stands worker hmem).advance_of_fine (h.entity_mem hmem) h.disk hfine
  refine ⟨⟨?_, hreports.disk, ?_, ?_⟩, new, hreports⟩
  · exact (map_entity_stepped hworker).trans h.workers
  · intro m hm
    rw [Emission.stepped, hreports.messages, List.mem_append] at hm
    rcases hm with hm | hm
    · exact h.owned m hm
    · rw [hreports.own m hm]
      exact List.mem_map_of_mem (h.entity_mem hmem)
  · intro other hother
    obtain ⟨j, hj⟩ := List.mem_iff_getElem?.mp hother
    rw [Emission.stepped, List.getElem?_set] at hj
    rw [Emission.stepped, hreports.messages, List.filter_append]
    split_ifs at hj with hij
    · obtain rfl := Option.some.inj hj
      have hown : new.filter (·.table == worker.entity.name) = new := by
        rw [List.filter_eq_self]
        intro m hm
        exact beq_iff_eq.mpr (hreports.own m hm)
      rw [hown]
      exact hstands
    · have hforeign : new.filter (·.table == other.entity.name) = [] := by
        rw [List.filter_eq_nil_iff]
        intro m hm htable
        rw [hreports.own m hm] at htable
        exact h.name_ne hnames hworker hj hij (beq_iff_eq.mp htable)
      rw [hforeign, List.append_nil]
      exact h.stands other (List.mem_of_getElem? hj)

theorem Sound.stepped
    (h : Sound w entities disk e) (hnames : (entities.map (·.name)).Nodup)
    (hserves : w.Serves entities disk) (hworker : e.workers[i]? = some worker) :
    Sound w entities disk (e.stepped w i worker) ∧
      ∃ new, Reports w entities disk worker.entity e.shared (e.stepped w i worker).shared new := by
  have hmem := List.mem_of_getElem? hworker
  exact h.stepped_of_fine hnames hworker
    ((h.stands worker hmem).fine_of_serves hserves (h.entity_mem hmem) h.disk)

theorem Sound.turn
    (h : Sound w entities disk e) (hnames : (entities.map (·.name)).Nodup)
    (hserves : w.Serves entities disk) (t : Turn) : Sound w entities disk (e.turn w t) := by
  cases t with
  | fire reason => exact ⟨h.workers, h.disk, h.owned, h.stands⟩
  | step i =>
      rcases turn_step_cases w e i with hsame | ⟨worker, hworker, hstep⟩
      · rw [hsame]
        exact h
      · rw [hstep]
        exact (h.stepped hnames hserves hworker).1

/-- Every schedule keeps each worker where its messages say. -/
theorem Sound.play
    (h : Sound w entities disk e) (hnames : (entities.map (·.name)).Nodup)
    (hserves : w.Serves entities disk) (schedule : List Turn) :
    Sound w entities disk (e.play w schedule) := by
  induction schedule generalizing e with
  | nil => exact h
  | cons t schedule ih => exact ih (h.turn hnames hserves t)

/-- Nothing has told the workers to stop, and no table was cut short. -/
structure Calm (token : Token) (e : Emission) : Prop where
  token : e.shared.token = token
  uncut : ∀ m ∈ e.shared.messages, m.cut? = none

theorem Calm.start (entities : List Entity) (disk : Disk) (token : Token) :
    Calm token (start entities disk token) :=
  ⟨rfl, fun _ hm => absurd hm List.not_mem_nil⟩

theorem Calm.of_reports {entity : Entity} {e' : Emission} {new : List Message}
    (h : Calm token e) (hcalm : token.look.fired = false)
    (hreports : Reports w entities disk entity e.shared e'.shared new) : Calm token e' := by
  obtain ⟨htoken, hnew⟩ := hreports.calm (h.token ▸ hcalm)
  refine ⟨htoken.trans h.token, fun m hm => ?_⟩
  rw [hreports.messages, List.mem_append] at hm
  rcases hm with hm | hm
  · exact h.uncut m hm
  · exact hnew m hm

/-- A schedule of steps alone cuts no table short. -/
theorem Calm.play
    (hquiet : Calm token e) (hsound : Sound w entities disk e)
    (hnames : (entities.map (·.name)).Nodup) (hserves : w.Serves entities disk)
    (hcalm : token.look.fired = false) {schedule : List Turn}
    (hsteps : ∀ t ∈ schedule, ∃ i, t = .step i) : Calm token (e.play w schedule) := by
  induction schedule generalizing e with
  | nil => exact hquiet
  | cons t schedule ih =>
      obtain ⟨hfirst, hrest⟩ := List.forall_mem_cons.mp hsteps
      obtain ⟨i, rfl⟩ := hfirst
      refine ih ?_ (hsound.turn hnames hserves (.step i)) hrest
      rcases turn_step_cases w e i with hsame | ⟨worker, hworker, hstep⟩
      · rw [hsame]
        exact hquiet
      · obtain ⟨-, new, hreports⟩ := hsound.stepped hnames hserves hworker
        rw [hstep]
        exact hquiet.of_reports hcalm hreports

end Turns

section Progress

variable {w : Workshop} {entities : List Entity} {disk : Disk} {token : Token} {stop : Stop}
variable {e : Emission} {worker : Worker} {i : Nat} {entity : Entity} {phase : Phase}

/-- How many steps a worker takes from where it stands, when nothing stops it. -/
def remaining (w : Workshop) (entity : Entity) : Phase → Nat
  | .waiting => stepsFor w entity
  | .ready plans => 2 * plans.length + 2
  | .busy _ plans => 2 * plans.length + 3
  | .leaving _ => 1
  | .gone _ => 0

theorem isGone_of_remaining (h : remaining w entity phase = 0) : phase.isGone = true := by
  cases phase with
  | gone problem => rfl
  | _ => simp [remaining, stepsFor] at h

/-- Each step of a worker is at least one of those that remain. -/
theorem remaining_advance (w : Workshop) (entity : Entity) (s : Shared) (phase : Phase) :
    remaining w entity (advance w entity s phase).1 ≤ remaining w entity phase - 1 := by
  cases phase with
  | waiting => exact le_rfl
  | ready plans =>
      cases plans with
      | nil => exact le_rfl
      | cons p rest =>
          simp only [advance]
          split_ifs
          · simp only [remaining, List.length_cons]
            omega
          · simp only [remaining, List.length_cons]
            omega
  | busy p rest =>
      rcases hprocess : process w s p with ⟨s', problem⟩
      cases problem with
      | none =>
          simp only [advance, hprocess, remaining]
          omega
      | some problem =>
          simp only [advance, hprocess, remaining]
          omega
  | leaving problem => exact le_rfl
  | gone problem => exact le_rfl

/-- A worker may go on while no other one is active. -/
theorem mayStep_of_alone
    (hlimit : 1 ≤ w.limit) (hworker : e.workers[i]? = some worker)
    (halone : ∀ j other, j ≠ i → e.workers[j]? = some other → other.phase.isActive = false) :
    e.mayStep w worker.phase = true := by
  cases hphase : worker.phase with
  | waiting =>
      have hnone : e.workers.filter (·.phase.isActive) = [] := by
        rw [List.filter_eq_nil_iff]
        intro other hother
        obtain ⟨j, hj⟩ := List.mem_iff_getElem?.mp hother
        by_cases hij : j = i
        · subst hij
          obtain rfl := Option.some.inj (hworker.symm.trans hj)
          rw [hphase]
          exact Bool.false_ne_true
        · rw [halone j other hij hj]
          exact Bool.false_ne_true
      simp only [mayStep, hasRoom, hnone, List.length_nil, decide_eq_true_eq]
      exact hlimit
  | ready plans => rfl
  | busy p plans => rfl
  | leaving problem => rfl
  | gone problem => rfl

/-- A turn, and the token that fires behind it when what stops the run has happened. -/
def follow (w : Workshop) (stop : Stop) (e : Emission) (t : Turn) : Emission :=
  if stop.hasHappened (e.turn w t) && !stop.hasHappened e then
    (e.turn w t).turn w (.fire (some stop.reason))
  else e.turn w t

theorem playWith_cons (w : Workshop) (stop : Stop) (e : Emission) (t : Turn)
    (schedule : List Turn) :
    e.playWith w stop (t :: schedule) = (e.follow w stop t).playWith w stop schedule := rfl

theorem playWith_append (w : Workshop) (stop : Stop) (e : Emission) (front back : List Turn) :
    e.playWith w stop (front ++ back) = (e.playWith w stop front).playWith w stop back :=
  List.foldl_append

theorem workers_follow (w : Workshop) (stop : Stop) (e : Emission) (t : Turn) :
    (e.follow w stop t).workers = (e.turn w t).workers := by
  rw [follow]
  split_ifs <;> rfl

/-- An emission that something stops is one in which the token fires at some moment. -/
theorem playWith_eq_play (w : Workshop) (stop : Stop) (schedule : List Turn) :
    ∀ e : Emission, ∃ turns, e.playWith w stop schedule = e.play w turns := by
  induction schedule with
  | nil => exact fun e => ⟨[], rfl⟩
  | cons t schedule ih =>
      intro e
      obtain ⟨turns, hturns⟩ := ih (e.follow w stop t)
      rw [playWith_cons, hturns, follow]
      split_ifs
      · exact ⟨t :: .fire (some stop.reason) :: turns, rfl⟩
      · exact ⟨t :: turns, rfl⟩

/-- Nothing happens to an emission that nothing stops but its schedule. -/
theorem playWith_never (w : Workshop) (e : Emission) (schedule : List Turn) :
    e.playWith w .never schedule = e.play w schedule := by
  simp only [playWith, play, Stop.hasHappened, Bool.false_and, Bool.false_eq_true, if_false]

/-- A worker that takes step after step while no other one is active goes through its plan. -/
theorem playWith_replicate (hlimit : 1 ≤ w.limit) (stop : Stop) (k : Nat) :
    ∀ {e : Emission} {worker : Worker}, e.workers[i]? = some worker →
      (∀ j other, j ≠ i → e.workers[j]? = some other → other.phase.isActive = false) →
      ∃ phase,
        (e.playWith w stop (List.replicate k (.step i))).workers =
          e.workers.set i { worker with phase := phase } ∧
        remaining w worker.entity phase ≤ remaining w worker.entity worker.phase - k := by
  induction k with
  | zero =>
      intro e worker hworker _
      obtain ⟨hlength, rfl⟩ := List.getElem?_eq_some_iff.mp hworker
      exact ⟨e.workers[i].phase, (List.set_getElem_self hlength).symm, le_rfl⟩
  | succ k ih =>
      intro e worker hworker halone
      have hlength := (List.getElem?_eq_some_iff.mp hworker).1
      have hnext : (e.follow w stop (.step i)).workers = (e.stepped w i worker).workers := by
        rw [workers_follow, turn_step hworker (mayStep_of_alone hlimit hworker halone)]
      have hworker' : (e.follow w stop (.step i)).workers[i]? =
          some { worker with phase := (advance w worker.entity e.shared worker.phase).1 } := by
        rw [hnext, stepped, List.getElem?_set, if_pos rfl, if_pos hlength]
      have halone' : ∀ j other, j ≠ i → (e.follow w stop (.step i)).workers[j]? = some other →
          other.phase.isActive = false := by
        intro j other hj hother
        rw [hnext, stepped, List.getElem?_set, if_neg (Ne.symm hj)] at hother
        exact halone j other hj hother
      obtain ⟨phase, hworkers, hremaining⟩ := ih hworker' halone'
      have hone := remaining_advance w worker.entity e.shared worker.phase
      rw [List.replicate_succ, playWith_cons]
      refine ⟨phase, ?_, ?_⟩
      · rw [hworkers, hnext, stepped, List.set_set]
      · refine hremaining.trans ?_
        dsimp only
        omega

/-- Between workers that are done and workers that have not begun, no other one is active. -/
theorem alone_of_split {front : List Worker} {rest : List Entity}
    (hworkers : e.workers = front ++ worker :: rest.map fun entity => { entity := entity })
    (hfront : ∀ x ∈ front, x.phase.isGone = true) :
    ∀ j other, j ≠ front.length → e.workers[j]? = some other → other.phase.isActive = false := by
  intro j other hj hother
  rw [hworkers] at hother
  rcases Nat.lt_or_gt_of_ne hj with hlt | hgt
  · rw [List.getElem?_append_left hlt] at hother
    have hgone := hfront other (List.mem_of_getElem? hother)
    cases hphase : other.phase with
    | gone problem => rfl
    | _ => simp [hphase, Phase.isGone] at hgone
  · rw [List.getElem?_append_right hgt.le, List.getElem?_cons, if_neg (by omega)] at hother
    obtain ⟨entity, -, rfl⟩ := List.mem_map.mp (List.mem_of_getElem? hother)
    rfl

/-- The workers behind those that are done go through their plans one after the other. -/
theorem isOver_turnsFrom (hlimit : 1 ≤ w.limit) (stop : Stop) (rest : List Entity) :
    ∀ {front : List Worker} {e : Emission},
      e.workers = front ++ rest.map (fun entity => { entity := entity }) →
      (∀ worker ∈ front, worker.phase.isGone = true) →
      (e.playWith w stop (turnsFrom w front.length rest)).isOver = true := by
  induction rest with
  | nil =>
      intro front e hworkers hfront
      rw [List.map_nil, List.append_nil] at hworkers
      show e.workers.all (·.phase.isGone) = true
      rw [hworkers, List.all_eq_true]
      exact hfront
  | cons entity rest ih =>
      intro front e hworkers hfront
      have hworker : e.workers[front.length]? = some { entity := entity } := by
        rw [hworkers, List.getElem?_append_right (Nat.le_refl _), Nat.sub_self]
        rfl
      have halone := alone_of_split hworkers hfront
      obtain ⟨phase, hset, hremaining⟩ :=
        playWith_replicate hlimit stop (stepsFor w entity) hworker halone
      have hgone : phase.isGone = true := by
        refine isGone_of_remaining (Nat.le_zero.mp (hremaining.trans ?_))
        rw [remaining, Nat.sub_self]
      have hworkers' :
          (e.playWith w stop (List.replicate (stepsFor w entity) (.step front.length))).workers =
            (front ++ [{ entity := entity, phase := phase }]) ++
              rest.map fun entity => { entity := entity } := by
        rw [hset, hworkers, List.set_append_right _ _ (Nat.le_refl _), Nat.sub_self, List.map_cons,
          List.set_cons_zero, List.append_assoc, List.singleton_append]
      have hfront' : ∀ worker ∈ front ++ [{ entity := entity, phase := phase }],
          worker.phase.isGone = true := by
        intro worker hmem
        rcases List.mem_append.mp hmem with hmem | hmem
        · exact hfront worker hmem
        · rw [List.mem_singleton.mp hmem]
          exact hgone
      have hend := ih hworkers' hfront'
      rw [List.length_append, List.length_singleton] at hend
      rw [turnsFrom, playWith_append]
      exact hend

/-- The emission of a run ends every worker, whatever stops it. -/
theorem isOver_emitEntities (hlimit : 1 ≤ w.limit) (stop : Stop) (entities : List Entity)
    (disk : Disk) (token : Token) : (emitEntities w stop entities disk token).isOver = true := by
  have hworkers : (start entities disk token).workers =
      [] ++ entities.map fun entity => { entity := entity } := rfl
  exact isOver_turnsFrom hlimit stop entities hworkers fun _ h => absurd h List.not_mem_nil

theorem exists_step_of_mem_turnsFrom {t : Turn} (rest : List Entity) :
    ∀ {i : Nat}, t ∈ turnsFrom w i rest → ∃ j, t = .step j := by
  induction rest with
  | nil => exact fun h => absurd h List.not_mem_nil
  | cons entity rest ih =>
      intro i h
      rcases List.mem_append.mp h with h | h
      · exact ⟨i, List.eq_of_mem_replicate h⟩
      · exact ih h

/-- Emitting one table after the other ends every worker, and cuts none short. -/
theorem isOver_oneByOne
    (hnames : (entities.map (·.name)).Nodup) (hserves : w.Serves entities disk)
    (hcalm : token.look.fired = false) (hlimit : 1 ≤ w.limit) :
    ((start entities disk token).play w (Turn.oneByOne w entities)).isOver = true ∧
      Sound w entities disk ((start entities disk token).play w (Turn.oneByOne w entities)) ∧
      Calm token ((start entities disk token).play w (Turn.oneByOne w entities)) := by
  have hsound := Sound.start w entities disk token
  refine ⟨?_, hsound.play hnames hserves _, ?_⟩
  · rw [← playWith_never]
    exact isOver_emitEntities hlimit .never entities disk token
  · exact (Calm.start entities disk token).play hsound hnames hserves hcalm
      fun _ => exists_step_of_mem_turnsFrom entities

end Progress

end Emission

end Run
end TableCast
