import TableCast.Proofs.Files.Writes

/-!
# Batches of artifacts

The artifacts of a batch are written one after the other to one disk, and the batch goes on after
a write that failed.

The artifacts may stand in each other's way: one path may come twice, and the file of one artifact
may be where another needs a directory.  When nothing is replaced, a write leaves its path
`Settled`: something stands there, or nothing can ever be put there.  A settled path stays settled
while the disk grows, and writing to it again does nothing.

**Results.**
* `attempt_settles`, `Settled.of_grows`, `attempt_of_settled`: one write, then others, then the
  same write again.
* `attempts_of_grows`: a second run over a disk that grew out of the first.
* `batches_keep_policies`: what the policies promise about whole batches.
-/

namespace TableCast
namespace Files

open Text
open Emit (Artifact)

namespace Disk

section Settled

variable {d d' : Disk} {p : Path}

/-- A path at which a write that replaces nothing has nothing to do: something stands there, it
cannot be looked at, or no file can be put there. -/
inductive Settled (d : Disk) (p : Path) : Prop
  | stands {node : Node} (h : d.status p = .ok node)
  | unseen {e : PathError} (h : d.exists? p = .error e)
  | blocked (h : d.Blocked p.parent)
  | refused {e : PathError} (hparent : d.status p.parent = .ok .directory)
      (hwalk : d.walk p = .error e) (hfirm : d.Firm p)

theorem Settled.of_grows (h : d.Settled p) (hgrows : d.Grows d') : d'.Settled p := by
  cases h with
  | stands hstatus => exact .stands (status_of_grows hgrows hstatus)
  | unseen hexists => exact .unseen (exists?_error_of_grows hexists hgrows)
  | blocked hblocked => exact .blocked (hblocked.of_grows hgrows)
  | refused hparent hwalk hfirm =>
      have hparent' := status_of_grows hgrows hparent
      have hwalk' := walk_of_keeps hgrows.keeps hwalk fun q hq => hfirm q (hwalk.trans hq)
      exact .refused hparent' hwalk' (Firm.of_directory hparent')

end Settled

end Disk

namespace Sink

open Disk

section Attempt

variable {s : Sink} {d d' : Disk} {a : Artifact} {path : Path}

/-- The outcome of a write, or what ended it, and the disk that is left. -/
def answered : Written → Except Problem Outcome × Disk
  | .ok (outcome, left, _) => (.ok outcome, left)
  | .error stop => (.error stop.problem, stop.disk)

/-- One artifact written. -/
def attempt (s : Sink) (d : Disk) (a : Artifact) : Except Problem Outcome × Disk :=
  answered (s.write d a.path a.content)

/-- Whether an answer says that the artifact was written. -/
def saysWritten : Except Problem Outcome → Bool
  | .ok outcome => outcome.status == .written
  | .error _ => false

theorem answered_refusal (left : Disk) (path : Path) (e : PathError) :
    ∃ answer, answered (refusal left path e) = (answer, left) ∧ saysWritten answer = false := by
  cases e with
  | nullCharacter => exact ⟨_, rfl, rfl⟩
  | system e q => cases e <;> exact ⟨_, rfl, rfl⟩

/-- What an attempt does to the disk: it leaves it as it is, adds directories, or puts the content
of the artifact in place on top of them. -/
inductive Leaves (s : Sink) (d : Disk) (a : Artifact) : Except Problem Outcome × Disk → Prop
  | same {answer : Except Problem Outcome} (hanswer : saysWritten answer = false) :
      Leaves s d a (answer, d)
  | paved {answer : Except Problem Outcome} {path : Path} {left : Disk}
      (hanswer : saysWritten answer = false) (hpolicy : s.policy ≠ .dryRun)
      (hpaved : d.Paved path.parent left) : Leaves s d a (answer, left)
  | placed {path : Path} {left : Disk} {place : Place}
      (htarget : s.targetPath a.path = .ok path) (hpolicy : s.policy ≠ .dryRun)
      (hpaved : d.Paved path.parent left) (hwalk : left.walk path = .ok place)
      (hnode : left.tree.node? place ≠ some .directory)
      (hfree : s.policy = .failOnExists → left.tree.node? place = none) :
      Leaves s d a (.ok { status := .written, path := path }, left.withFile place a.content)

theorem attempt_leaves (s : Sink) (d : Disk) (a : Artifact) : s.Leaves d a (s.attempt d a) := by
  have hends := s.write_ends d a.path a.content
  rw [attempt]
  generalize s.write d a.path a.content = written at hends
  cases hends with
  | escapes => exact .same rfl
  | planned => exact .same rfl
  | unseen => exact .same rfl
  | found => exact .same rfl
  | @stopped path left e htarget hattempts hmade =>
      obtain ⟨answer, hanswer, hsays⟩ := answered_refusal left path e
      rw [hanswer]
      exact .paved hsays hattempts.ne_dryRun (.of_makeDirectories hmade)
  | @refused path left e htarget hattempts hmade =>
      obtain ⟨answer, hanswer, hsays⟩ := answered_refusal left path e
      rw [hanswer]
      exact .paved hsays hattempts.ne_dryRun (.of_makeDirectories hmade)
  | @written path left d' htarget hattempts hmade hfile =>
      have hwrote := left.writeFile_wrote path a.content (s.policy == .failOnExists)
      rw [hfile] at hwrote
      cases hwrote with
      | placed hwalk hnode hfree =>
          exact .placed htarget hattempts.ne_dryRun (.of_makeDirectories hmade) hwalk hnode
            fun hpolicy => hfree (by rw [hpolicy]; rfl)

/-- When nothing is replaced, a write leaves its path settled. -/
theorem attempt_settles (hpolicy : s.policy = .failOnExists)
    (htarget : s.targetPath a.path = .ok path) : (s.attempt d a).2.Settled path := by
  have hends := s.write_ends d a.path a.content
  rw [attempt]
  generalize s.write d a.path a.content = written at hends
  cases hends with
  | escapes hescapes =>
      rw [htarget] at hescapes
      cases hescapes
  | planned _ hdry =>
      rw [hpolicy] at hdry
      cases hdry
  | unseen htarget' _ hexists =>
      obtain rfl := Except.ok.inj (htarget.symm.trans htarget')
      exact .unseen hexists
  | found htarget' _ hexists =>
      obtain rfl := Except.ok.inj (htarget.symm.trans htarget')
      obtain ⟨node, hstatus⟩ := exists?_eq_true_iff.mp hexists
      exact .stands hstatus
  | @stopped _ left e htarget' _ hmade =>
      obtain rfl := Except.ok.inj (htarget.symm.trans htarget')
      obtain ⟨answer, hanswer, -⟩ := answered_refusal left path e
      have hway := makeDirectories_makesWay d path.parent
      rw [hmade] at hway
      rw [hanswer]
      cases hway with
      | stopped _ hblocked => exact .blocked hblocked
  | @refused _ left e htarget' _ hmade hfile =>
      obtain rfl := Except.ok.inj (htarget.symm.trans htarget')
      obtain ⟨answer, hanswer, -⟩ := answered_refusal left path e
      have hway := makeDirectories_makesWay d path.parent
      have hwrote := left.writeFile_wrote path a.content (s.policy == .failOnExists)
      rw [hmade] at hway
      rw [hfile] at hwrote
      rw [hanswer]
      cases hway with
      | made _ hdirectory =>
          cases hwrote with
          | refused hwalk => exact .refused hdirectory hwalk (Firm.of_directory hdirectory)
          | taken _ hstatus => exact .stands hstatus
          | directory _ hstatus => exact .stands hstatus
  | @written _ left _ htarget' _ hmade hfile =>
      obtain rfl := Except.ok.inj (htarget.symm.trans htarget')
      have hwrote := left.writeFile_wrote path a.content (s.policy == .failOnExists)
      rw [hfile] at hwrote
      cases hwrote with
      | placed hwalk hnode => exact .stands (status_withFile hwalk hnode)

/-- When nothing is replaced, nothing is done about an artifact whose path is settled. -/
theorem attempt_of_settled (hpolicy : s.policy = .failOnExists)
    (htarget : s.targetPath a.path = .ok path) (h : d.Settled path) :
    ∃ answer, s.attempt d a = (answer, d) ∧ saysWritten answer = false := by
  cases hexists : d.exists? path with
  | error e =>
      refine ⟨.error e.problem, ?_, rfl⟩
      rw [attempt, write, htarget]
      simp only [hpolicy, hexists, answered]
  | ok found =>
      cases found with
      | true =>
          refine ⟨.ok { status := .skipped, path := path }, ?_, rfl⟩
          rw [attempt, write, htarget]
          simp only [hpolicy, hexists, answered]
      | false =>
          have hwrite := write_of_attempts a.content htarget (.inr ⟨hpolicy, hexists⟩)
          suffices hrefused : ∃ e, s.place d path a.content = refusal d path e by
            obtain ⟨e, hplace⟩ := hrefused
            rw [attempt, hwrite, hplace]
            exact answered_refusal d path e
          cases h with
          | stands hstatus =>
              rw [exists?_eq_true_iff.mpr ⟨_, hstatus⟩] at hexists
              cases hexists
          | unseen hunseen =>
              rw [hunseen] at hexists
              cases hexists
          | blocked hblocked =>
              obtain ⟨e, hmade⟩ := makeDirectories_of_blocked hblocked
              exact ⟨e, place_of_stopped hmade⟩
          | refused hparent hwalk =>
              exact ⟨_, place_of_refused (makeDirectories_of_directory hparent)
                (writeFile_of_walk_error hwalk)⟩

theorem attempt_grows (hpolicy : s.policy = .failOnExists) : d.Grows (s.attempt d a).2 := by
  have hleaves := s.attempt_leaves d a
  generalize s.attempt d a = result at hleaves
  cases hleaves with
  | same => exact Grows.refl d
  | paved _ _ hpaved => exact hpaved.grows
  | placed _ _ hpaved _ _ hfree => exact hpaved.grows.trans (Grows.put (hfree hpolicy) _)

/-- When nothing is replaced, an artifact that was attempted once is left alone on every disk that
grew out of that. -/
theorem attempt_of_grows (hpolicy : s.policy = .failOnExists)
    (hgrows : (s.attempt d a).2.Grows d') :
    ∃ answer, s.attempt d' a = (answer, d') ∧ saysWritten answer = false := by
  cases htarget : s.targetPath a.path with
  | ok path =>
      exact attempt_of_settled hpolicy htarget ((attempt_settles hpolicy htarget).of_grows hgrows)
  | error fault =>
      refine ⟨.ok { status := .error, path := s.root.join (Path.ofText a.path),
                    fault := some fault }, ?_, rfl⟩
      rw [attempt, write, htarget]
      rfl

end Attempt

section Batches

variable {s : Sink} {d d' : Disk}

/-- Artifacts written one after the other: the answers, and the disk that is left. -/
def attempts (s : Sink) (d : Disk) : List Artifact → List (Except Problem Outcome) × Disk
  | [] => ([], d)
  | a :: rest =>
    let (answer, left) := s.attempt d a
    let (answers, last) := s.attempts left rest
    (answer :: answers, last)

theorem attempts_cons (a : Artifact) (rest : List Artifact) (d : Disk) :
    s.attempts d (a :: rest) = ((s.attempt d a).1 :: (s.attempts (s.attempt d a).2 rest).1,
      (s.attempts (s.attempt d a).2 rest).2) := by
  simp only [attempts]

theorem attempts_append (front back : List Artifact) :
    ∀ d, s.attempts d (front ++ back) =
      ((s.attempts d front).1 ++ (s.attempts (s.attempts d front).2 back).1,
        (s.attempts (s.attempts d front).2 back).2) := by
  induction front with
  | nil => exact fun d => rfl
  | cons a front ih =>
      intro d
      rw [List.cons_append, attempts_cons, attempts_cons, ih, List.cons_append]

theorem length_attempts (s : Sink) (batch : List Artifact) : ∀ d,
    (s.attempts d batch).1.length = batch.length := by
  induction batch with
  | nil => exact fun d => rfl
  | cons a batch ih =>
      intro d
      rw [attempts_cons, List.length_cons, List.length_cons, ih]

theorem attempts_grows (hpolicy : s.policy = .failOnExists) (batch : List Artifact) :
    ∀ d : Disk, d.Grows (s.attempts d batch).2 := by
  induction batch with
  | nil => exact Grows.refl
  | cons a batch ih =>
      intro d
      rw [attempts_cons]
      exact (attempt_grows hpolicy).trans (ih _)

/-- A batch that is run again over a disk that grew out of the first run.  The induction takes the
later disk to be anything that grew, since the disk after the first artifact is not the last one. -/
theorem attempts_of_grows (hpolicy : s.policy = .failOnExists) (batch : List Artifact) :
    ∀ d, (s.attempts d batch).2.Grows d' →
      (s.attempts d' batch).2 = d' ∧
        ∀ answer ∈ (s.attempts d' batch).1, saysWritten answer = false := by
  induction batch with
  | nil => exact fun d _ => ⟨rfl, nofun⟩
  | cons a batch ih =>
      intro d hgrows
      rw [attempts_cons] at hgrows
      have hfirst : (s.attempt d a).2.Grows d' := (attempts_grows hpolicy batch _).trans hgrows
      obtain ⟨answer, hattempt, hanswer⟩ := attempt_of_grows hpolicy hfirst
      obtain ⟨hlast, hanswers⟩ := ih _ hgrows
      rw [attempts_cons, hattempt]
      exact ⟨hlast, List.forall_mem_cons.mpr ⟨hanswer, hanswers⟩⟩

theorem attempts_of_dryRun (hpolicy : s.policy = .dryRun) (batch : List Artifact) :
    ∀ d, (s.attempts d batch).2 = d := by
  induction batch with
  | nil => exact fun d => rfl
  | cons a batch ih =>
      intro d
      have hattempt : (s.attempt d a).2 = d := by
        have hleaves := s.attempt_leaves d a
        generalize s.attempt d a = result at hleaves
        cases hleaves with
        | same => rfl
        | paved _ hne => exact absurd hpolicy hne
        | placed _ hne => exact absurd hpolicy hne
      rw [attempts_cons, hattempt]
      exact ih d

/-- What an answer promises about the files before and after it.  An artifact that is reported
written stands at its place, no other file is touched, and no file at all without that report. -/
structure Honest (s : Sink) (before : Disk) (a : Artifact)
    (result : Except Problem Outcome × Disk) : Prop where
  written : saysWritten result.1 = true → ∃ path place,
    s.targetPath a.path = .ok path ∧ result.1 = .ok { status := .written, path := path } ∧
    result.2.walk path = .ok place ∧ result.2.tree.content? place = some a.content ∧
    ∀ other, other ≠ place → result.2.tree.content? other = before.tree.content? other
  otherwise : saysWritten result.1 = false →
    ∀ place, result.2.tree.content? place = before.tree.content? place

theorem attempt_honest (s : Sink) (d : Disk) (a : Artifact) : s.Honest d a (s.attempt d a) := by
  have hleaves := s.attempt_leaves d a
  generalize s.attempt d a = result at hleaves
  cases hleaves with
  | same hanswer =>
      refine ⟨fun h => ?_, fun _ _ => rfl⟩
      rw [hanswer] at h
      cases h
  | paved hanswer _ hpaved =>
      refine ⟨fun h => ?_, fun _ => hpaved.content?_eq⟩
      rw [hanswer] at h
      cases h
  | @placed path left place htarget _ hpaved hwalk hnode _ =>
      refine ⟨fun _ => ⟨path, place, htarget, rfl, ?_, ?_, fun other hother => ?_⟩, nofun⟩
      · exact walk_of_keeps (Keeps.put_file hnode a.content) hwalk nofun
      · rw [content?_withFile hnode, if_pos rfl]
      · rw [content?_withFile hnode, if_neg hother, hpaved.content?_eq]

/-- The policies over whole batches, from any tree: a dry run changes nothing; when nothing is
replaced, every file that stood keeps its content; every answer is honest about the disk before and
after it; and running a batch again, when nothing is replaced, changes nothing and writes nothing. -/
theorem batches_keep_policies (s : Sink) (d : Disk) (batch : List Artifact) :
    (s.policy = .dryRun → (s.attempts d batch).2 = d) ∧
    (s.policy = .failOnExists → ∀ place content, d.tree.content? place = some content →
      (s.attempts d batch).2.tree.content? place = some content) ∧
    (∀ front a back, batch = front ++ a :: back →
      (s.attempts d batch).1[front.length]? = some (s.attempt (s.attempts d front).2 a).1 ∧
      s.Honest (s.attempts d front).2 a (s.attempt (s.attempts d front).2 a)) ∧
    (s.policy = .failOnExists →
      (s.attempts (s.attempts d batch).2 batch).2 = (s.attempts d batch).2 ∧
      ∀ answer ∈ (s.attempts (s.attempts d batch).2 batch).1, saysWritten answer = false) := by
  refine ⟨fun hpolicy => attempts_of_dryRun hpolicy batch d, fun hpolicy place content hfile => ?_,
    fun front a back hbatch => ⟨?_, attempt_honest s _ a⟩,
    fun hpolicy => attempts_of_grows hpolicy batch d (Grows.refl _)⟩
  · rw [content?_eq_some_iff] at hfile ⊢
    exact (attempts_grows hpolicy batch d).kept place _ hfile
  · subst hbatch
    rw [attempts_append]
    have hlength := s.length_attempts front d
    rw [attempts_cons, List.getElem?_append_right hlength.le, hlength, Nat.sub_self,
      List.getElem?_cons_zero]

end Batches

end Sink
end Files
end TableCast
