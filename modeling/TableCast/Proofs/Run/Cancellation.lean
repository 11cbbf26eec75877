import TableCast.Proofs.Run.Endings
import TableCast.Proofs.Run.Statuses

/-!
# Emissions that are cut short

The token may fire between any two steps of any worker.  A worker that finds it fired cuts its
table short and leaves.

**Invariant.**  `Winds` compares an emission with a moment at which the token had fired: what a
worker had started then is what it has completed since and what it still works on.

**Results.**
* `Winds.play`: what happens after the token has fired.
* `keepsAccount_of_over`: the result of an emission whose workers are done.
* `emitEntities_keepsAccount`: the emission of a run, whatever stops it.
* `cancelled_emission_keeps_account`: every schedule, and every moment at which the token fires.
-/

namespace TableCast
namespace Run

open Emit Files Model

/-- The artifact that a worker has started. -/
def Phase.started : Phase → List Plan
  | .busy p _ => [p]
  | _ => []

/-- The records of a table so far, in the order in which they came. -/
def Shared.recordsOf (s : Shared) (table : String) : List ArtifactRecord :=
  (s.messages.filterMap Message.record?).filter (·.table == table)

section Fired

variable {w : Workshop} {entities : List Entity} {disk : Disk} {entity : Entity}
variable {s : Shared} {phase : Phase} {ms : List Message}

/-- What a worker does in a step after the token has fired: it begins nothing, and it completes
what it had started. -/
structure Completes (w : Workshop) (entity : Entity) (s : Shared) (phase : Phase)
    (finished : List Plan) (outcomes : List (ArtifactRecord × Option Diagnostic)) : Prop where
  token : (advance w entity s phase).2.token.look.fired = true
  started : phase.started = finished ++ (advance w entity s phase).1.started
  became : List.Forall₂ (Records w) finished outcomes
  own : ∀ o ∈ outcomes, o.1.table = entity.name
  records : (advance w entity s phase).2.messages.filterMap Message.record? =
    s.messages.filterMap Message.record? ++ outcomes.map (·.1)

theorem Completes.nothing (htoken : (advance w entity s phase).2.token.look.fired = true)
    (hstarted : phase.started = (advance w entity s phase).1.started)
    (hrecords : (advance w entity s phase).2.messages.filterMap Message.record? =
      s.messages.filterMap Message.record?) :
    Completes w entity s phase [] [] :=
  ⟨htoken, hstarted, .nil, fun _ h => absurd h List.not_mem_nil, by rw [hrecords, List.map_nil,
    List.append_nil]⟩

theorem filterMap_record?_say {m : Message} (h : m.record? = none) (s : Shared) :
    (s.say m).messages.filterMap Message.record? = s.messages.filterMap Message.record? := by
  rw [Shared.say, List.filterMap_append, List.filterMap_cons, h]
  exact List.append_nil _

theorem Stands.completes (h : Stands w entity phase ms) (he : entity ∈ entities)
    (hdisk : w.Leaves entities disk s.disk)
    (hfine : (advance w entity s phase).1.problem? = none) (hfired : s.token.look.fired = true) :
    ∃ finished outcomes, Completes w entity s phase finished outcomes := by
  cases h with
  | waiting => exact ⟨[], [], .nothing hfired rfl rfl⟩
  | @ready done rest outcomes hplan hdone =>
      refine ⟨[], [], ?_⟩
      cases rest with
      | nil => exact .nothing hfired rfl rfl
      | cons p rest =>
          have hadvance : advance w entity s (.ready (p :: rest)) =
              (.leaving none, ({ s with token := s.token.look } : Shared).say (.cut entity.name)) := by
            simp only [advance, hfired, if_true]
          refine .nothing ?_ ?_ ?_
          · rw [hadvance]
            exact Token.fired_look_of_fired hfired
          · rw [hadvance]
            rfl
          · rw [hadvance]
            exact filterMap_record?_say rfl _
  | @busy done rest p outcomes hplan hdone =>
      have hp : p ∈ plan w.set w.options entity := hplan ▸ List.mem_append_right _ List.mem_cons_self
      rcases hprocess : process w s p with ⟨s', problem⟩
      cases problem with
      | some problem =>
          simp only [advance, hprocess, Phase.problem?] at hfine
          cases hfine
      | none =>
          obtain ⟨o, hrecords, hmessages, htoken, -⟩ := process_records he hp hdisk hprocess
          have hadvance : advance w entity s (.busy p rest) = (.ready rest, s') := by
            simp only [advance, hprocess]
          refine ⟨[p], [o], ⟨?_, ?_, .cons hrecords .nil, ?_, ?_⟩⟩
          · rw [hadvance, htoken]
            exact hfired
          · rw [hadvance]
            rfl
          · rw [List.forall_mem_singleton, hrecords.table, entity_of_mem_plan hp]
          · rw [hadvance, hmessages, List.filterMap_append]
            rfl
  | complete hdone => exact ⟨[], [], .nothing hfired rfl (filterMap_record?_say rfl s)⟩
  | cut hplan hdone => exact ⟨[], [], .nothing hfired rfl (filterMap_record?_say rfl s)⟩
  | gone hleft => exact ⟨[], [], .nothing hfired rfl rfl⟩

theorem Completes.recordsOf {finished : List Plan}
    {outcomes : List (ArtifactRecord × Option Diagnostic)}
    (h : Completes w entity s phase finished outcomes) (table : String) :
    (advance w entity s phase).2.recordsOf table =
      s.recordsOf table ++ if table = entity.name then outcomes.map (·.1) else [] := by
  rw [Shared.recordsOf, h.records, List.filter_append]
  congr 1
  split_ifs with htable
  · rw [List.filter_eq_self, htable]
    intro r hr
    obtain ⟨o, ho, rfl⟩ := List.mem_map.mp hr
    exact beq_iff_eq.mpr (h.own o ho)
  · rw [List.filter_eq_nil_iff]
    intro r hr hown
    obtain ⟨o, ho, rfl⟩ := List.mem_map.mp hr
    exact htable ((beq_iff_eq.mp hown).symm.trans (h.own o ho))

namespace Emission

variable {fired e : Emission}

/-- What has happened since a moment at which the token had fired.  It stays fired, and what a
worker had started then is what it has completed since, and what it still works on. -/
structure Winds (w : Workshop) (fired e : Emission) : Prop where
  token : e.shared.token.look.fired = true
  workers : ∀ (i : Nat) (worker : Worker), fired.workers[i]? = some worker →
    ∃ (worker' : Worker) (finished : List Plan)
      (outcomes : List (ArtifactRecord × Option Diagnostic)),
      e.workers[i]? = some worker' ∧ worker'.entity = worker.entity ∧
      worker.phase.started = finished ++ worker'.phase.started ∧
      List.Forall₂ (Records w) finished outcomes ∧
      e.shared.recordsOf worker.entity.name =
        fired.shared.recordsOf worker.entity.name ++ outcomes.map (·.1)

theorem Winds.start (h : e.shared.token.look.fired = true) : Winds w e e :=
  ⟨h, fun _ worker hworker => ⟨worker, [], [], hworker, rfl, rfl, .nil, (List.append_nil _).symm⟩⟩

theorem Winds.stepped (h : Winds w fired e) (hsound : Sound w entities disk e)
    (hnames : (entities.map (·.name)).Nodup) {i : Nat} {stepping : Worker}
    (hstepping : e.workers[i]? = some stepping) (hfine : (e.stepped w i stepping).Fine) :
    Winds w fired (e.stepped w i stepping) := by
  have hmem := List.mem_of_getElem? hstepping
  have hlength := (List.getElem?_eq_some_iff.mp hstepping).1
  obtain ⟨new, results, hcompletes⟩ := (hsound.stands stepping hmem).completes
    (hsound.entity_mem hmem) hsound.disk (hfine.advance hstepping) h.token
  refine ⟨hcompletes.token, fun j worker hworker => ?_⟩
  obtain ⟨worker', finished, outcomes, hworker', hentity, hstarted, hrecords, hsince⟩ :=
    h.workers j worker hworker
  have hnow := hcompletes.recordsOf worker.entity.name
  rw [hsince, List.append_assoc] at hnow
  by_cases hij : i = j
  · subst hij
    obtain rfl := Option.some.inj (hstepping.symm.trans hworker')
    rw [if_pos (congrArg Entity.name hentity.symm), ← List.map_append] at hnow
    refine ⟨{ stepping with phase := (advance w stepping.entity e.shared stepping.phase).1 },
      finished ++ new, outcomes ++ results, ?_, hentity, ?_,
      List.rel_append hrecords hcompletes.became, hnow⟩
    · rw [Emission.stepped, List.getElem?_set, if_pos rfl, if_pos hlength]
    · rw [hstarted, hcompletes.started, List.append_assoc]
  · have hother := hsound.name_ne hnames hstepping hworker' hij
    rw [if_neg fun heq => hother (heq.symm.trans (congrArg Entity.name hentity.symm)),
      List.append_nil] at hnow
    refine ⟨worker', finished, outcomes, ?_, hentity, hstarted, hrecords, hnow⟩
    rw [Emission.stepped, List.getElem?_set, if_neg hij]
    exact hworker'

theorem Winds.turn (h : Winds w fired e) (hsound : Sound w entities disk e)
    (hnames : (entities.map (·.name)).Nodup) (t : Turn) (hfine : (e.turn w t).Fine) :
    Winds w fired (e.turn w t) := by
  cases t with
  | fire reason => exact ⟨Token.fired_look_of_fired (Token.fired_cancel _ _), h.workers⟩
  | step i =>
      rcases turn_step_cases w e i with hsame | ⟨worker, hworker, hstep⟩
      · rw [hsame]
        exact h
      · rw [hstep] at hfine ⊢
        exact h.stepped hsound hnames hworker hfine

/-- However the schedule goes on after the token has fired. -/
theorem Winds.play (hnames : (entities.map (·.name)).Nodup) (schedule : List Turn) :
    ∀ {e : Emission}, Winds w fired e → Sound w entities disk e → (e.play w schedule).Fine →
      Winds w fired (e.play w schedule) := by
  induction schedule with
  | nil => exact fun h _ _ => h
  | cons t schedule ih =>
      intro e h hsound hfine
      have hturn := Fine.of_play schedule hfine
      exact ih (h.turn hsound hnames t hturn) (hsound.turn_of_fine hnames t hturn) hfine

end Emission

end Fired

section Results

variable {w : Workshop} {entities : List Entity} {disk : Disk} {e : Emission} {entity : Entity}
variable {stop : Stop} {reading : Reading} {assembly : Assembly}

/-- Whether a table has fewer records than artifacts in its plan. -/
def CutShort (w : Workshop) (r : Result) (entity : Entity) : Prop :=
  (r.artifacts.filter (·.table == entity.name)).length < (plan w.set w.options entity).length

/-- The status of a table whose worker has left out some artifacts. -/
def statusAfter (table : String) (rest : List Plan) : TableStatus :=
  if rest.isEmpty then { table := table, succeeded := true }
  else { table := table, succeeded := false, reason := some "cancelled" }

/-- A result that tells exactly what was emitted.  The records of each table are what became of a
prefix of its plan, one record each; its one status says that it succeeded when that is the whole
plan, and else that it was cancelled; and the result is cancelled when some table is cut short. -/
structure KeepsAccount (w : Workshop) (entities : List Entity) (r : Result) : Prop where
  tables : ∀ entity ∈ entities, ∃ done rest outcomes,
    plan w.set w.options entity = done ++ rest ∧ List.Forall₂ (Records w) done outcomes ∧
    (r.artifacts.filter (·.table == entity.name)).Perm (outcomes.map (·.1)) ∧
    r.tables.filter (·.table == entity.name) = [statusAfter entity.name rest]
  cancelled : r.cancelled = true ↔ ∃ entity ∈ entities, CutShort w r entity

/-- The account of an emission whose workers are done, with what was noted before it. -/
def Emission.accountOver (e : Emission) (reading : Reading) (assembly : Assembly) : Account :=
  { artifacts := e.shared.messages.filterMap Message.record?
    diagnostics := reading.diagnostics ++ assembly.diagnostics ++
      e.shared.messages.filterMap Message.diagnostic?
    cut := e.shared.messages.filterMap Message.cut? }

/-- The result of an emission whose workers are done. -/
def endedResult (e : Emission) (reading : Reading) (assembly : Assembly) : Result :=
  (e.accountOver reading assembly).result e.tables assembly.failures false

theorem emissionOutcome_of_fine (hover : e.isOver = true) (hsound : e.Sound w entities disk)
    (hstop : stop ≠ .interruption) :
    emissionOutcome stop e reading assembly = .ok (endedResult e reading assembly) := by
  have hgoing : (stop == .interruption && stop.hasHappened e) = false := by
    rw [beq_eq_false_iff_ne.mpr hstop, Bool.false_and]
  rw [emissionOutcome, hgoing, Emission.problem?_of_fine hsound.fine,
    Emission.account_of_told hover hsound]
  rfl

theorem records_endedResult (table : String) :
    ((endedResult e reading assembly).artifacts.filter (·.table == table)).Perm
      (e.shared.recordsOf table) :=
  (List.mergeSort_perm _ _).filter _

theorem mem_cut_iff (table : String) :
    table ∈ e.shared.messages.filterMap Message.cut? ↔
      .cut table ∈ e.shared.messages.filter (·.table == table) := by
  rw [List.mem_filterMap, List.mem_filter]
  constructor
  · rintro ⟨m, hm, hcut⟩
    cases m with
    | cut other =>
        obtain rfl := Option.some.inj hcut
        exact ⟨hm, beq_self_eq_true _⟩
    | processed record diagnostic => cases hcut
    | finished other => cases hcut
  · exact fun h => ⟨_, h.1, rfl⟩

/-- The one status of an emitted table. -/
theorem status_endedResult (hsound : e.Sound w assembly.entities disk)
    (hnames : assembly.assembled.Nodup)
    (hapart : ∀ name ∈ assembly.assembled, name ∉ assembly.excluded)
    (hentity : entity ∈ assembly.entities) {done rest : List Plan}
    {outcomes : List (ArtifactRecord × Option Diagnostic)}
    (htold : Told w entity (e.shared.messages.filter (·.table == entity.name)) done rest outcomes) :
    (endedResult e reading assembly).tables.filter (·.table == entity.name) =
      [statusAfter entity.name rest] := by
  have hname : entity.name ∈ assembly.assembled := List.mem_map_of_mem hentity
  have htables : e.tables = assembly.assembled := hsound.tables_eq
  have hcut : (e.accountOver reading assembly).cut.contains entity.name = !rest.isEmpty := by
    rw [Bool.eq_iff_iff, List.contains_iff_mem, Emission.accountOver, mem_cut_iff,
      htold.cut_mem_iff, Bool.not_eq_true', List.isEmpty_eq_false_iff]
  rw [endedResult, htables, Account.filter_tables_result hname hnames (hapart _ hname),
    Account.statusOf, hcut, statusAfter]
  cases rest with
  | nil => rfl
  | cons p rest => rfl

theorem cutShort_endedResult_iff {done rest : List Plan}
    {outcomes : List (ArtifactRecord × Option Diagnostic)}
    (htold : Told w entity (e.shared.messages.filter (·.table == entity.name)) done rest outcomes) :
    CutShort w (endedResult e reading assembly) entity ↔ rest ≠ [] := by
  rw [CutShort, (records_endedResult entity.name).length_eq, Shared.recordsOf,
    Emission.records_of_told htold, List.length_map, ← htold.records.length_eq, htold.plan,
    List.length_append, ← List.length_pos_iff]
  omega

/-- When every worker is done, and none was ended by a problem, the result keeps the account. -/
theorem keepsAccount_of_over (hover : e.isOver = true) (hsound : e.Sound w assembly.entities disk)
    (hnames : assembly.assembled.Nodup)
    (hapart : ∀ name ∈ assembly.assembled, name ∉ assembly.excluded) :
    KeepsAccount w assembly.entities (endedResult e reading assembly) := by
  constructor
  case tables =>
    intro entity hentity
    obtain ⟨done, rest, outcomes, htold⟩ := Emission.told_of_over hover hsound hentity
    refine ⟨done, rest, outcomes, htold.plan, htold.records, ?_,
      status_endedResult hsound hnames hapart hentity htold⟩
    rw [← Emission.records_of_told htold]
    exact records_endedResult entity.name
  case cancelled =>
    have htables : e.tables = assembly.entities.map (·.name) := hsound.tables_eq
    show (false || e.tables.any (e.accountOver reading assembly).cut.contains) = true ↔ _
    rw [Bool.false_or, List.any_eq_true, htables]
    simp only [List.mem_map, exists_exists_and_eq_and, List.contains_iff_mem]
    refine exists_congr fun entity => and_congr_right fun hentity => ?_
    obtain ⟨done, rest, outcomes, htold⟩ := Emission.told_of_over hover hsound hentity
    rw [cutShort_endedResult_iff htold, Emission.accountOver, mem_cut_iff, htold.cut_mem_iff]

/-- The emission of a run keeps the account, whatever stops the run short of an interruption.  Here
the schedule is that of the program, which goes through the tables one by one, and what stops the
run decides when the token fires. -/
theorem emitEntities_keepsAccount {token : Token} (hlimit : 1 ≤ w.limit)
    (hnames : assembly.assembled.Nodup)
    (hapart : ∀ name ∈ assembly.assembled, name ∉ assembly.excluded)
    (hproblem : (emitEntities w stop assembly.entities disk token).problem? = none)
    (hstop : stop ≠ .interruption) :
    ∃ result,
      emissionOutcome stop (emitEntities w stop assembly.entities disk token) reading assembly =
        .ok result ∧ KeepsAccount w assembly.entities result := by
  have hover := Emission.isOver_emitEntities hlimit stop assembly.entities disk token
  have hfine := Emission.fine_of_over hover hproblem
  obtain ⟨turns, hturns⟩ := Emission.playWith_eq_play w stop (Turn.oneByOne w assembly.entities)
    (Emission.start assembly.entities disk token)
  have hsound : Emission.Sound w assembly.entities disk
      (emitEntities w stop assembly.entities disk token) := by
    rw [emitEntities, hturns] at hfine ⊢
    exact Emission.Sound.play_of_fine hnames turns (Emission.Sound.start w _ disk token) hfine
  exact ⟨_, emissionOutcome_of_fine hover hsound hstop,
    keepsAccount_of_over hover hsound hnames hapart⟩

/-- Cancellation keeps an exact account, for every set of tables, every schedule of the workers and
every moment at which the token fires, when no problem ends a worker.  The result tells what was
emitted; and once the token has fired it stays fired, and each worker completes at most the one
artifact that it had started. -/
theorem cancelled_emission_keeps_account {token : Token} {schedule : List Turn}
    (hnames : assembly.assembled.Nodup)
    (hapart : ∀ name ∈ assembly.assembled, name ∉ assembly.excluded)
    (hplay : (Emission.start assembly.entities disk token).play w schedule = e)
    (hover : e.isOver = true) (hproblem : e.problem? = none) (hstop : stop ≠ .interruption) :
    (∃ result, emissionOutcome stop e reading assembly = .ok result ∧
      KeepsAccount w assembly.entities result) ∧
    ∀ front back fired, schedule = front ++ back →
      (Emission.start assembly.entities disk token).play w front = fired →
      fired.shared.token.look.fired = true →
        e.shared.token.look.fired = true ∧
        ∀ worker ∈ fired.workers, ∃ finished outcomes,
          finished <+: worker.phase.started ∧ List.Forall₂ (Records w) finished outcomes ∧
          e.shared.recordsOf worker.entity.name =
            fired.shared.recordsOf worker.entity.name ++ outcomes.map (·.1) := by
  subst hplay
  have hfine := Emission.fine_of_over hover hproblem
  have hstart := Emission.Sound.start w assembly.entities disk token
  have hsound := Emission.Sound.play_of_fine hnames schedule hstart hfine
  refine ⟨⟨_, emissionOutcome_of_fine hover hsound hstop,
    keepsAccount_of_over hover hsound hnames hapart⟩, ?_⟩
  rintro front back fired rfl rfl hfired
  rw [Emission.play, List.foldl_append] at hfine ⊢
  have hsound' := Emission.Sound.play_of_fine hnames front hstart (Emission.Fine.of_play back hfine)
  have hwinds := (Emission.Winds.start hfired).play hnames back hsound' hfine
  refine ⟨hwinds.token, fun worker hworker => ?_⟩
  obtain ⟨i, hi⟩ := List.mem_iff_getElem?.mp hworker
  obtain ⟨worker', finished, outcomes, -, -, hstarted, hrecords, hsince⟩ :=
    hwinds.workers i worker hi
  exact ⟨finished, outcomes, hstarted ▸ List.prefix_append _ _, hrecords, hsince⟩

/-- Two tables, of which the first has two artifacts. -/
def twoTables : Assembly :=
  { entities := [
      { name := "shop", typeName := "Shop", companion := some "ShopRepository",
        state := .finalized },
      { name := "staff", typeName := "Staff", state := .finalized }] }

/-- Two workers that only plan what they would write. -/
def planners : Workshop :=
  { set := pythonSet, sink := { root := { names := ["out"] }, policy := .dryRun }, limit := 2 }

/-- Both workers start an artifact before the token fires. -/
def untilFired : List Turn := [.step 0, .step 0, .step 1, .step 1, .fire none]

/-- Both workers go on until they are done. -/
def windingUp : List Turn := [.step 0, .step 0, .step 0, .step 1, .step 1, .step 1]

/-- The two tables before their workers begin. -/
def beforeTwo : Emission := .start twoTables.entities { tree := {}, working := [] } {}

/-- The token fires while both workers are busy, and each completes at most the artifact that it had
started. -/
theorem cancelled_emission_of_twoTables :
    (∃ result, emissionOutcome .never (beforeTwo.play planners (untilFired ++ windingUp)) {}
        twoTables = .ok result ∧ KeepsAccount planners twoTables.entities result) ∧
      ∀ worker ∈ (beforeTwo.play planners untilFired).workers, ∃ finished outcomes,
        finished <+: worker.phase.started ∧ List.Forall₂ (Records planners) finished outcomes ∧
        (beforeTwo.play planners (untilFired ++ windingUp)).shared.recordsOf worker.entity.name =
          (beforeTwo.play planners untilFired).shared.recordsOf worker.entity.name ++
            outcomes.map (·.1) := by
  have hnames : twoTables.assembled.Nodup := by decide
  have hapart : ∀ name ∈ twoTables.assembled, name ∉ twoTables.excluded := by decide
  have hover : (beforeTwo.play planners (untilFired ++ windingUp)).isOver = true := by
    decide +kernel
  have hproblem : (beforeTwo.play planners (untilFired ++ windingUp)).problem? = none :=
    Option.isNone_iff_eq_none.mp (by decide +kernel)
  have hfired : (beforeTwo.play planners untilFired).shared.token.look.fired = true := by
    decide +kernel
  have hstop : Stop.never ≠ .interruption := nofun
  obtain ⟨hresult, hsince⟩ :=
    cancelled_emission_keeps_account hnames hapart rfl hover hproblem hstop
  exact ⟨hresult, (hsince untilFired windingUp _ rfl rfl hfired).2⟩

end Results

end Run
end TableCast
