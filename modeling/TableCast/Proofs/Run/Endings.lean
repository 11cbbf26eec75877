import TableCast.Proofs.Run.Workers

/-!
# What workers have reported when they are done

**Invariants.**  `Emission.Fine` says that no problem ended a worker; it holds at every moment of a
schedule at whose end it holds, and then `Emission.Sound` is kept.

**Results.**
* `Sound.play_of_fine`: what a schedule keeps that no problem ends.
* `told_of_over`: what the messages of each worker are when all are done.
* `account_of_told`, `records_of_told`: the account that they make, and the records of a table.
* `told_of_calm`: no plan is cut short when nothing has told the workers to stop.
-/

namespace TableCast
namespace Run

open Emit Files Model

section Fine

variable {w : Workshop} {entities : List Entity} {disk : Disk} {e : Emission} {entity : Entity}
variable {s : Shared} {phase : Phase}

/-- A worker that a problem ends stays with that problem. -/
theorem problem?_of_advance (h : (advance w entity s phase).1.problem? = none) :
    phase.problem? = none := by
  cases phase with
  | leaving problem => exact h
  | gone problem => exact h
  | _ => rfl

namespace Emission

/-- No worker is ended by a problem. -/
def Fine (e : Emission) : Prop := ∀ worker ∈ e.workers, worker.phase.problem? = none

/-- The worker whose turn it is is not ended by a problem, when none is afterwards. -/
theorem Fine.advance {i : Nat} {worker : Worker} (h : (e.stepped w i worker).Fine)
    (hworker : e.workers[i]? = some worker) :
    (Run.advance w worker.entity e.shared worker.phase).1.problem? = none := by
  have hlength := (List.getElem?_eq_some_iff.mp hworker).1
  refine h { worker with phase := _ } (List.mem_of_getElem? (i := i) ?_)
  rw [stepped, List.getElem?_set, if_pos rfl, if_pos hlength]

theorem Fine.of_turn {t : Turn} (h : (e.turn w t).Fine) : e.Fine := by
  cases t with
  | fire reason => exact h
  | step i =>
      rcases turn_step_cases w e i with hsame | ⟨worker, hworker, hstep⟩
      · rwa [hsame] at h
      · rw [hstep] at h
        intro other hother
        obtain ⟨j, hj⟩ := List.mem_iff_getElem?.mp hother
        by_cases hij : i = j
        · subst hij
          obtain rfl := Option.some.inj (hworker.symm.trans hj)
          exact problem?_of_advance (h.advance hworker)
        · refine h other (List.mem_of_getElem? (i := j) ?_)
          rw [stepped, List.getElem?_set, if_neg hij]
          exact hj

theorem Fine.of_play (schedule : List Turn) :
    ∀ {e : Emission}, (e.play w schedule).Fine → e.Fine := by
  induction schedule with
  | nil => exact fun h => h
  | cons t schedule ih => exact fun h => (ih h).of_turn

theorem Sound.turn_of_fine (h : Sound w entities disk e)
    (hnames : (entities.map (·.name)).Nodup) (t : Turn) (hfine : (e.turn w t).Fine) :
    Sound w entities disk (e.turn w t) := by
  cases t with
  | fire reason => exact ⟨h.workers, h.disk, h.owned, h.stands⟩
  | step i =>
      rcases turn_step_cases w e i with hsame | ⟨worker, hworker, hstep⟩
      · rw [hsame]
        exact h
      · rw [hstep] at hfine ⊢
        exact (h.stepped_of_fine hnames hworker (hfine.advance hworker)).1

/-- A schedule that no problem ends keeps each worker where its messages say. -/
theorem Sound.play_of_fine (hnames : (entities.map (·.name)).Nodup) (schedule : List Turn) :
    ∀ {e : Emission}, Sound w entities disk e → (e.play w schedule).Fine →
      Sound w entities disk (e.play w schedule) := by
  induction schedule with
  | nil => exact fun h _ => h
  | cons t schedule ih =>
      intro e h hfine
      exact ih (h.turn_of_fine hnames t (Fine.of_play schedule hfine)) hfine

theorem Sound.fine (h : Sound w entities disk e) : e.Fine :=
  fun worker hworker => (h.stands worker hworker).problem?_eq

/-- When every worker is done and none ended with a problem, none was ended by one. -/
theorem fine_of_over (hover : e.isOver = true) (hproblem : e.problem? = none) : e.Fine := by
  intro worker hworker
  have hgone := List.all_eq_true.mp hover worker hworker
  have hnone := List.findSome?_eq_none_iff.mp hproblem worker hworker
  cases hphase : worker.phase with
  | gone problem =>
      rw [hphase] at hnone
      exact hnone
  | _ => simp [hphase, Phase.isGone] at hgone

theorem problem?_of_fine (h : e.Fine) : e.problem? = none := by
  rw [problem?, List.findSome?_eq_none_iff]
  intro worker hworker
  have hnone := h worker hworker
  cases hphase : worker.phase with
  | gone problem =>
      rw [hphase] at hnone
      exact hnone
  | _ => rfl

end Emission

end Fine

section Told

variable {w : Workshop} {entities : List Entity} {disk : Disk} {e : Emission} {entity : Entity}
variable {ms : List Message} {done rest : List Plan}
variable {outcomes : List (ArtifactRecord × Option Diagnostic)}

/-- What a worker says about the artifacts that it leaves out. -/
def cutMessages (table : String) (rest : List Plan) : List Message :=
  if rest.isEmpty then [] else [.cut table]

/-- What a worker has reported when it is done: what became of the first artifacts of its plan, and
that its table is cut short when these are not all. -/
structure Told (w : Workshop) (entity : Entity) (ms : List Message) (done rest : List Plan)
    (outcomes : List (ArtifactRecord × Option Diagnostic)) : Prop where
  plan : plan w.set w.options entity = done ++ rest
  records : List.Forall₂ (Records w) done outcomes
  messages : ms = reported outcomes ++ cutMessages entity.name rest ++ [.finished entity.name]

theorem Stands.told {problem : Option Problem} (h : Stands w entity (.gone problem) ms) :
    ∃ done rest outcomes, Told w entity ms done rest outcomes := by
  cases h with
  | gone hleft =>
      cases hleft with
      | @complete outcomes hdone =>
          refine ⟨_, [], outcomes, (List.append_nil _).symm, hdone, ?_⟩
          rw [cutMessages, List.isEmpty_nil, if_pos rfl, List.append_nil]
      | @cut done rest p outcomes hplan hdone => exact ⟨done, p :: rest, outcomes, hplan, hdone, rfl⟩

theorem filterMap_record?_reported (outcomes : List (ArtifactRecord × Option Diagnostic)) :
    (reported outcomes).filterMap Message.record? = outcomes.map (·.1) := by
  rw [reported, List.filterMap_map]
  show outcomes.filterMap (fun o => some o.1) = _
  rw [List.filterMap_eq_map']

theorem filterMap_record?_cutMessages (table : String) (rest : List Plan) :
    (cutMessages table rest).filterMap Message.record? = [] := by
  rw [cutMessages]
  split_ifs <;> rfl

theorem Told.filterMap_record? (h : Told w entity ms done rest outcomes) :
    ms.filterMap Message.record? = outcomes.map (·.1) := by
  rw [h.messages, List.filterMap_append, List.filterMap_append, filterMap_record?_reported,
    filterMap_record?_cutMessages, List.append_nil]
  exact List.append_nil _

theorem not_mem_reported {m : Message} (h : m.record? = none) : m ∉ reported outcomes := by
  intro hm
  obtain ⟨o, -, rfl⟩ := List.mem_map.mp hm
  cases h

theorem mem_cutMessages {m : Message} {table : String} :
    m ∈ cutMessages table rest ↔ rest ≠ [] ∧ m = .cut table := by
  rw [cutMessages]
  cases rest with
  | nil => simp
  | cons p rest => simp

theorem Told.cut_mem_iff (h : Told w entity ms done rest outcomes) :
    .cut entity.name ∈ ms ↔ rest ≠ [] := by
  rw [h.messages, List.mem_append, List.mem_append, mem_cutMessages, List.mem_singleton]
  constructor
  · rintro ((hm | ⟨hrest, -⟩) | hm)
    · exact absurd hm (not_mem_reported rfl)
    · exact hrest
    · cases hm
  · exact fun hrest => .inl (.inr ⟨hrest, rfl⟩)

theorem Told.finished_last (h : Told w entity ms done rest outcomes) :
    ∃ init, ms = init ++ [.finished entity.name] ∧ .finished entity.name ∉ init := by
  refine ⟨_, h.messages, fun hm => ?_⟩
  rcases List.mem_append.mp hm with hm | hm
  · exact not_mem_reported rfl hm
  · cases (mem_cutMessages.mp hm).2

end Told

section Over

variable {w : Workshop} {entities : List Entity} {disk : Disk} {e : Emission} {entity : Entity}

namespace Emission

/-- When every worker is done, each has told what became of a prefix of its plan. -/
theorem told_of_over (hover : e.isOver = true) (hsound : Sound w entities disk e)
    (hentity : entity ∈ entities) :
    ∃ done rest outcomes, Told w entity (e.shared.messages.filter (·.table == entity.name)) done
      rest outcomes := by
  rw [← hsound.workers] at hentity
  obtain ⟨worker, hworker, rfl⟩ := List.mem_map.mp hentity
  have hgone := List.all_eq_true.mp hover worker hworker
  have hstands := hsound.stands worker hworker
  cases hphase : worker.phase with
  | gone problem =>
      rw [hphase] at hstands
      exact hstands.told
  | _ => simp [hphase, Phase.isGone] at hgone

/-- The account of an emission whose workers are done has what all messages tell. -/
theorem account_of_told (hover : e.isOver = true) (hsound : Sound w entities disk e) :
    e.account =
      { artifacts := e.shared.messages.filterMap Message.record?
        diagnostics := e.shared.messages.filterMap Message.diagnostic?
        cut := e.shared.messages.filterMap Message.cut? } := by
  have hfinishes : Account.Finishes e.tables e.shared.messages := by
    rw [hsound.tables_eq]
    refine ⟨hsound.owned, fun table htable => ?_⟩
    obtain ⟨entity, hentity, rfl⟩ := List.mem_map.mp htable
    obtain ⟨done, rest, outcomes, htold⟩ := told_of_over hover hsound hentity
    exact htold.finished_last
  rw [account, Account.collect_of_finishes hfinishes]

/-- When every worker is done, the records of a table are what became of a prefix of its plan. -/
theorem records_of_told {done rest : List Plan}
    {outcomes : List (ArtifactRecord × Option Diagnostic)}
    (h : Told w entity (e.shared.messages.filter (·.table == entity.name)) done rest outcomes) :
    (e.shared.messages.filterMap Message.record?).filter (·.table == entity.name) =
      outcomes.map (·.1) := by
  rw [Message.filter_records, h.filterMap_record?]

/-- When nothing has told the workers to stop, each has told what became of its whole plan. -/
theorem told_of_calm {token : Token} (hover : e.isOver = true) (hsound : Sound w entities disk e)
    (hquiet : Calm token e) (hentity : entity ∈ entities) :
    ∃ outcomes, Told w entity (e.shared.messages.filter (·.table == entity.name))
      (plan w.set w.options entity) [] outcomes := by
  obtain ⟨done, rest, outcomes, htold⟩ := told_of_over hover hsound hentity
  have hrest : rest = [] := by
    by_contra hrest
    have hcut := List.mem_of_mem_filter (htold.cut_mem_iff.mpr hrest)
    cases hquiet.uncut _ hcut
  subst hrest
  have hplan := htold.plan
  rw [List.append_nil] at hplan
  exact ⟨outcomes, hplan ▸ htold⟩

end Emission

end Over

end Run
end TableCast
