import TableCast.Proofs.Files.PlainPaths
import TableCast.Proofs.Files.Writes

/-!
# Artifacts that are skipped

A write is reported skipped when something stands at the path of the artifact and is left alone.
It is reported skipped, too, when the directory that it needs is a file: then making directories is
stopped by a place that is taken, which is the answer that an artifact in its place gives, under
both policies that write.

**Results.**
* `write_outcomes`: when a write is skipped, when it gives no outcome, and what else becomes of it.
* `write_of_blocked_directory`: an artifact skipped although nothing stands at its path.
-/

namespace TableCast
namespace Files

open Text

namespace Sink

open Disk

variable {s : Sink} {d left : Disk} {path : Path} {relative content : String} {e : PathError}

/-- The status that a write reports, unless it was ended. -/
def reported : Written → Option WriteStatus
  | .ok (outcome, _, _) => some outcome.status
  | .error _ => none

/-- An artifact whose path is looked at and found, so that it is left alone. -/
def LeavesAlone (s : Sink) (d : Disk) (path : Path) : Prop :=
  s.policy = .failOnExists ∧ d.exists? path = .ok true

theorem reported_refusal_eq_skipped_iff :
    reported (refusal left path e) = some .skipped ↔ ∃ q, e = .system .taken q := by
  cases e with
  | nullCharacter => exact ⟨nofun, nofun⟩
  | system e q =>
      cases e with
      | taken => exact ⟨fun _ => ⟨q, rfl⟩, fun _ => rfl⟩
      | missing => exact ⟨nofun, nofun⟩
      | notDirectory => exact ⟨nofun, nofun⟩
      | isDirectory => exact ⟨nofun, nofun⟩
      | nameTooLong => exact ⟨nofun, nofun⟩

theorem reported_refusal_eq_none_iff :
    reported (refusal left path e) = none ↔ e = .nullCharacter := by
  cases e with
  | nullCharacter => exact ⟨fun _ => rfl, fun _ => rfl⟩
  | system e q => cases e <;> exact ⟨nofun, nofun⟩

/-- When a write is skipped, from any tree and for any root. -/
theorem reported_eq_skipped_iff :
    reported (s.write d relative content) = some .skipped ↔
      ∃ path, s.targetPath relative = .ok path ∧
        (s.LeavesAlone d path ∨ s.Attempts d path ∧
          (d.StopsAtFile path.parent ∨ s.policy = .failOnExists ∧ d.AppearsAt path)) := by
  constructor
  · intro h
    have hends := s.write_ends d relative content
    generalize s.write d relative content = answer at h hends
    cases hends with
    | escapes => cases h
    | planned => cases h
    | unseen => cases h
    | written => cases h
    | found htarget hpolicy hexists => exact ⟨_, htarget, .inl ⟨hpolicy, hexists⟩⟩
    | stopped htarget hattempts hmade =>
        obtain ⟨q, rfl⟩ := reported_refusal_eq_skipped_iff.mp h
        exact ⟨_, htarget, .inr ⟨hattempts, .inl ⟨q, by rw [hmade]⟩⟩⟩
    | refused htarget hattempts hmade hwrite =>
        obtain ⟨q, rfl⟩ := reported_refusal_eq_skipped_iff.mp h
        obtain ⟨hexclusive, hstatus⟩ := status_of_writeFile_taken hwrite
        refine ⟨_, htarget, .inr ⟨hattempts, .inr ⟨beq_iff_eq.mp hexclusive, ?_⟩⟩⟩
        rw [AppearsAt, hmade]
        exact ⟨rfl, hstatus⟩
  · rintro ⟨path, htarget, ⟨hpolicy, hexists⟩ | ⟨hattempts, hskips⟩⟩
    · rw [write, htarget]
      simp only [hpolicy, hexists, reported]
    · rw [write_of_attempts content htarget hattempts]
      rcases hskips with ⟨q, hstopped⟩ | ⟨hpolicy, hnone, node, hstatus⟩
      · rw [place_of_stopped (Prod.ext rfl hstopped)]
        exact reported_refusal_eq_skipped_iff.mpr ⟨q, rfl⟩
      · have hwrite := writeFile_of_status content hstatus
        rw [place_of_refused (Prod.ext rfl hnone) (by rw [hpolicy]; exact hwrite)]
        exact reported_refusal_eq_skipped_iff.mpr ⟨path, rfl⟩

/-- When a write gives no outcome. -/
theorem reported_eq_none_iff :
    reported (s.write d relative content) = none ↔
      ∃ path, s.targetPath relative = .ok path ∧
        (s.policy = .failOnExists ∧ (∃ e, d.exists? path = .error e) ∨
          s.Attempts d path ∧ hasNull path = true ∧
            ∀ e q, (d.makeDirectories path.parent).2 ≠ some (.system e q)) := by
  constructor
  · intro h
    have hends := s.write_ends d relative content
    generalize s.write d relative content = answer at h hends
    cases hends with
    | escapes => cases h
    | planned => cases h
    | found => cases h
    | written => cases h
    | unseen htarget hpolicy hexists => exact ⟨_, htarget, .inl ⟨hpolicy, _, hexists⟩⟩
    | @stopped path left e htarget hattempts hmade =>
        obtain rfl := reported_refusal_eq_none_iff.mp h
        have hway := makeDirectories_makesWay d path.parent
        rw [hmade] at hway
        refine ⟨_, htarget, .inr ⟨hattempts, ?_, fun e q => ?_⟩⟩
        · cases hway with
          | stopped _ _ hnull => exact hasNull_of_parent (hnull.mp rfl)
        · rw [hmade]
          exact nofun
    | refused htarget hattempts hmade hwrite =>
        obtain rfl := reported_refusal_eq_none_iff.mp h
        refine ⟨_, htarget, .inr ⟨hattempts, writeFile_eq_null_iff.mp hwrite, fun e q => ?_⟩⟩
        rw [hmade]
        exact nofun
  · rintro ⟨path, htarget, ⟨hpolicy, e, hexists⟩ | ⟨hattempts, hnull, hmade⟩⟩
    · rw [write, htarget]
      simp only [hpolicy, hexists, reported]
    · rw [write_of_attempts content htarget hattempts]
      cases hfailure : (d.makeDirectories path.parent).2 with
      | none =>
          rw [place_of_refused (Prod.ext rfl hfailure) (writeFile_eq_null_iff.mpr hnull)]
          rfl
      | some e =>
          cases e with
          | nullCharacter =>
              rw [place_of_stopped (Prod.ext rfl hfailure)]
              rfl
          | system e q => exact absurd hfailure (hmade e q)

theorem plain_targetPath (hroot : s.root.Plain) (h : s.targetPath relative = .ok path) :
    path.Plain := by
  rw [targetPath] at h
  split_ifs at h with hescapes
  obtain rfl := Except.ok.inj h
  refine PlainNames.append hroot fun habove => hescapes ?_
  rw [List.contains_iff_mem.mpr habove, Bool.or_true]

/-- When a write is skipped, in a closed tree and for a plain root. -/
theorem reported_eq_skipped_iff_of_plain (hd : d.IsTree) (hroot : s.root.Plain) :
    reported (s.write d relative content) = some .skipped ↔
      ∃ path, s.targetPath relative = .ok path ∧
        (s.LeavesAlone d path ∨ s.Attempts d path ∧ d.isFile path.parent = true) := by
  rw [reported_eq_skipped_iff]
  refine exists_congr fun path => and_congr_right fun htarget =>
    or_congr_right (and_congr_right fun hattempts => ?_)
  have hplain := plain_targetPath hroot htarget
  rw [stopsAtFile_iff hd (hplain.of_front path.names_parent)]
  refine or_iff_left fun ⟨hpolicy, happears⟩ => ?_
  rcases hattempts with hforce | ⟨-, hexists⟩
  · rw [hforce] at hpolicy
    cases hpolicy
  · exact not_appearsAt hd hplain hexists happears

/-- What becomes of an artifact that is not skipped: it is only planned, it stands where its path
leads to, or the outcome says why it was not written. -/
def Accounts (s : Sink) (content : String) (outcome : Outcome) (left : Disk) : Prop :=
  outcome.status = .planned ∧ s.policy = .dryRun ∨
  outcome.status = .written ∧ left.status outcome.path = .ok (.file content) ∨
  outcome.status = .error ∧ ∃ fault, outcome.fault = some fault ∧ fault.kind = .fileWrite

theorem kind_writeFault (path message : String) : (writeFault path message).kind = .fileWrite := by
  rw [writeFault, Fault.note]
  split_ifs <;> rfl

theorem kind_of_targetPath {fault : Fault} (h : s.targetPath relative = .error fault) :
    fault.kind = .fileWrite := by
  rw [targetPath] at h
  split_ifs at h
  rw [← Except.error.inj h]
  exact kind_writeFault _ _

theorem refusal_accounts {outcome : Outcome} {left' : Disk} {log : List Log.Entry}
    (h : refusal left path e = .ok (outcome, left', log)) :
    outcome.status = .skipped ∨ s.Accounts content outcome left' := by
  have hfault : ∀ e q, refusal left path (.system e q) = .ok (outcome, left', log) → e ≠ .taken →
      s.Accounts content outcome left' := by
    intro e q h he
    cases e with
    | taken => exact absurd rfl he
    | missing | notDirectory | isDirectory | nameTooLong =>
        obtain ⟨rfl, -⟩ := Prod.mk.inj (Except.ok.inj h)
        exact .inr (.inr ⟨rfl, _, rfl, kind_writeFault _ _⟩)
  cases e with
  | nullCharacter => cases h
  | system e q =>
      by_cases he : e = .taken
      · subst he
        obtain ⟨rfl, -⟩ := Prod.mk.inj (Except.ok.inj h)
        exact .inl rfl
      · exact .inr (hfault e q h he)

theorem write_accounts {outcome : Outcome} {log : List Log.Entry}
    (h : s.write d relative content = .ok (outcome, left, log)) :
    outcome.status = .skipped ∨ s.Accounts content outcome left := by
  have hends := s.write_ends d relative content
  rw [h] at hends
  generalize hanswer : (Except.ok (outcome, left, log) : Written) = answer at hends
  cases hends with
  | unseen => cases hanswer
  | escapes htarget =>
      obtain ⟨rfl, -⟩ := Prod.mk.inj (Except.ok.inj hanswer)
      exact .inr (.inr (.inr ⟨rfl, _, rfl, kind_of_targetPath htarget⟩))
  | planned _ hpolicy =>
      obtain ⟨rfl, -⟩ := Prod.mk.inj (Except.ok.inj hanswer)
      exact .inr (.inl ⟨rfl, hpolicy⟩)
  | found =>
      obtain ⟨rfl, -⟩ := Prod.mk.inj (Except.ok.inj hanswer)
      exact .inl rfl
  | stopped => exact refusal_accounts hanswer.symm
  | refused => exact refusal_accounts hanswer.symm
  | @written path before d' _ _ _ hwrite =>
      obtain ⟨rfl, hleft⟩ := Prod.mk.inj (Except.ok.inj hanswer)
      obtain ⟨rfl, -⟩ := Prod.mk.inj hleft
      have hwrote := before.writeFile_wrote path content (s.policy == .failOnExists)
      rw [hwrite] at hwrote
      cases hwrote with
      | placed hwalk hnode => exact .inr (.inr (.inl ⟨rfl, status_withFile hwalk hnode⟩))

/-- What becomes of a write.

It is skipped when the artifact is left alone because something stands at its path, or comes to
light there once directories are made above it, and also when making directories is stopped by a
place that is taken.  In a closed tree and below a plain root nothing comes to light, and such a
place is to say that the directory of the artifact is a file.  A write gives no outcome when its
path cannot be looked at or has a null character.  Every other outcome accounts for the artifact. -/
theorem write_outcomes (s : Sink) (d : Disk) (relative content : String) :
    (reported (s.write d relative content) = some .skipped ↔
      ∃ path, s.targetPath relative = .ok path ∧
        (s.LeavesAlone d path ∨ s.Attempts d path ∧
          (d.StopsAtFile path.parent ∨ s.policy = .failOnExists ∧ d.AppearsAt path))) ∧
    (d.IsTree → s.root.Plain →
      (reported (s.write d relative content) = some .skipped ↔
        ∃ path, s.targetPath relative = .ok path ∧
          (s.LeavesAlone d path ∨ s.Attempts d path ∧ d.isFile path.parent = true))) ∧
    (reported (s.write d relative content) = none ↔
      ∃ path, s.targetPath relative = .ok path ∧
        (s.policy = .failOnExists ∧ (∃ e, d.exists? path = .error e) ∨
          s.Attempts d path ∧ hasNull path = true ∧
            ∀ e q, (d.makeDirectories path.parent).2 ≠ some (.system e q))) ∧
    (∀ outcome left log, s.write d relative content = .ok (outcome, left, log) →
      outcome.status = .skipped ∨ s.Accounts content outcome left) :=
  ⟨reported_eq_skipped_iff, reported_eq_skipped_iff_of_plain, reported_eq_none_iff,
    fun _ _ _ => write_accounts⟩

/-- A tree in which a file stands where a directory of artifacts is needed. -/
def blockedDisk : Disk :=
  { tree := ({} : Tree).withFiles ["work"] [("out/entities", "blocker")], working := ["work"] }

/-- In a tree in which a file stands in place of a directory, an artifact is skipped that is to
stand in that directory. -/
theorem write_outcomes_of_blockedDisk :
    blockedDisk.IsTree ∧ (Path.ofText "out").Plain ∧
      reported (({ root := Path.ofText "out" } : Sink).write blockedDisk "entities/product.py" "x") =
        some .skipped := by
  have hd : blockedDisk.IsTree := isTree_of_nodes (by decide +kernel) (by decide +kernel)
  have hroot : (Path.ofText "out").Plain := by
    rw [Path.Plain, show (Path.ofText "out").names = ["out"] by decide +kernel]
    exact List.pairwise_singleton _ _
  refine ⟨hd, hroot, ((write_outcomes _ _ _ _).2.1 hd hroot).mpr
    ⟨⟨"", ["out", "entities", "product.py"]⟩, ?_, ?_⟩⟩
  · decide +kernel
  · exact .inr ⟨.inr ⟨rfl, by decide +kernel⟩, by decide +kernel⟩

/-- An artifact can be skipped although nothing stands at its path, and under a policy that replaces
what stands there. -/
theorem write_of_blocked_directory :
    (∃ path, ({ root := Path.ofText "out" } : Sink).targetPath "entities/product.py" = .ok path ∧
      blockedDisk.exists? path = .ok false) ∧
    reported (({ root := Path.ofText "out" } : Sink).write blockedDisk "entities/product.py" "x") =
      some .skipped ∧
    reported (({ root := Path.ofText "out", policy := .forceOverwrite } : Sink).write blockedDisk
      "entities/product.py" "x") = some .skipped := by
  refine ⟨⟨⟨"", ["out", "entities", "product.py"]⟩, ?_, ?_⟩, ?_, ?_⟩ <;> decide +kernel

end Sink
end Files
end TableCast
