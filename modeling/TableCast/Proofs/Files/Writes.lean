import TableCast.Files.Sink
import TableCast.Proofs.Files.Directories

/-!
# How a write ends

**Results.**
* `writeFile_wrote`: what writing one file leads to.
* `write_ends`: the ways in which the write of an artifact ends, with what holds on each.
* `fault_isSome_iff_of_write`: an outcome has a fault exactly when it is an error.
-/

namespace TableCast
namespace Files

open Text

namespace Disk

section Writing

variable {d : Disk} {p : Path} {place : Place} {content : String} {exclusive : Bool}

/-- The disk with a file at a place. -/
def withFile (d : Disk) (place : Place) (content : String) : Disk :=
  { d with tree := d.tree.put place (.file content) }

/-- What writing a file leads to: it stands in its place, or nothing is written because the path
leads nowhere, because something is in its place, or because a directory is. -/
inductive Wrote (d : Disk) (p : Path) (content : String) (exclusive : Bool) :
    Except PathError Disk → Prop
  | placed {place : Place} (hwalk : d.walk p = .ok place)
      (hnode : d.tree.node? place ≠ some .directory)
      (hfree : exclusive = true → d.tree.node? place = none) :
      Wrote d p content exclusive (.ok (d.withFile place content))
  | refused {e : PathError} (hwalk : d.walk p = .error e) : Wrote d p content exclusive (.error e)
  | taken {node : Node} (hexclusive : exclusive = true) (hstatus : d.status p = .ok node) :
      Wrote d p content exclusive (.error (.system .taken p))
  | directory (hexclusive : exclusive = false) (hstatus : d.status p = .ok .directory) :
      Wrote d p content exclusive (.error (.system .isDirectory p))

theorem writeFile_of_walk_error {e : PathError} (h : d.walk p = .error e) :
    d.writeFile p content exclusive = .error e := by
  rw [writeFile, h]
  rfl

theorem writeFile_wrote (d : Disk) (p : Path) (content : String) (exclusive : Bool) :
    d.Wrote p content exclusive (d.writeFile p content exclusive) := by
  cases hwalk : d.walk p with
  | error e =>
      rw [writeFile_of_walk_error hwalk]
      exact .refused hwalk
  | ok place =>
      rw [writeFile, hwalk]
      simp only [bind, Except.bind]
      cases hnode : d.tree.node? place with
      | none =>
          exact .placed hwalk (by rw [hnode]; exact nofun) fun _ => hnode
      | some node =>
          have hstatus := status_eq_ok_iff.mpr ⟨place, hwalk, hnode⟩
          cases exclusive with
          | true => exact .taken rfl hstatus
          | false =>
              cases node with
              | directory => exact .directory rfl hstatus
              | file old => exact .placed hwalk (by rw [hnode]; exact nofun) nofun

theorem writeFile_of_status {node : Node} (content : String) (h : d.status p = .ok node) :
    d.writeFile p content true = .error (.system .taken p) := by
  obtain ⟨place, hwalk, hnode⟩ := status_eq_ok_iff.mp h
  rw [writeFile, hwalk]
  simp only [bind, Except.bind, hnode, if_true]

/-- A file that is refused as taken stands there. -/
theorem status_of_writeFile_taken {q : Path}
    (h : d.writeFile p content exclusive = .error (.system .taken q)) :
    exclusive = true ∧ ∃ node, d.status p = .ok node := by
  have hwrote := d.writeFile_wrote p content exclusive
  rw [h] at hwrote
  cases hwrote with
  | refused hwalk => exact absurd hwalk (walk_ne_taken q)
  | taken hexclusive hstatus => exact ⟨hexclusive, _, hstatus⟩

theorem writeFile_eq_null_iff :
    d.writeFile p content exclusive = .error .nullCharacter ↔ hasNull p = true := by
  refine ⟨fun h => ?_, fun h => writeFile_of_walk_error (walk_of_null h)⟩
  have hwrote := d.writeFile_wrote p content exclusive
  rw [h] at hwrote
  cases hwrote with
  | refused hwalk => exact walk_eq_null_iff.mp hwalk

theorem content?_withFile (h : d.tree.node? place ≠ some .directory) (other : Place) :
    (d.withFile place content).tree.content? other =
      if other = place then some content else d.tree.content? other := by
  have hput : (d.withFile place content).tree.node? other = _ := node?_put (ne_nil_of_node? h)
  rw [Tree.content?, hput]
  split_ifs <;> rfl

/-- A file that is written stands where its path leads to. -/
theorem status_withFile (hwalk : d.walk p = .ok place)
    (hnode : d.tree.node? place ≠ some .directory) :
    (d.withFile place content).status p = .ok (.file content) := by
  have hput : (d.withFile place content).tree.node? place = _ := node?_put (ne_nil_of_node? hnode)
  rw [if_pos rfl] at hput
  exact status_eq_ok_iff.mpr ⟨place, walk_of_keeps (Keeps.put_file hnode content) hwalk nofun, hput⟩

/-- Behind a directory no place is missing. -/
theorem Firm.of_directory (h : d.status p.parent = .ok .directory) : d.Firm p := by
  intro q hq
  obtain ⟨husable, hnames⟩ := usable_of_missing hq
  rcases walk_of_directory h husable hnames with ⟨place, hwalk⟩ | hlong
  · rw [hwalk] at hq
    cases hq
  · rw [hlong] at hq
    cases hq

end Writing

end Disk

namespace Sink

variable {s : Sink} {d d' : Disk} {path : Path} {relative content : String} {outcome : Outcome}
variable {log : List Log.Entry}

/-- What a write gives that could not put its content in place. -/
def refusal (left : Disk) (path : Path) : PathError → Written
  | .nullCharacter => .error { problem := .badValue nullMessage, disk := left }
  | .system .taken _ => .ok ({ status := .skipped, path := path }, left, [skipEntry path])
  | .system e at_ =>
    let fault := writeFault path.text
      ("Could not write '" ++ path.text ++ "': " ++ e.message at_)
    .ok ({ status := .error, path := path, fault := some fault }, left, [Log.error fault.message])

theorem place_of_stopped {left : Disk} {e : PathError}
    (h : d.makeDirectories path.parent = (left, some e)) :
    s.place d path content = refusal left path e := by
  rw [place, h]
  cases e with
  | nullCharacter => rfl
  | system e q => cases e <;> rfl

theorem place_of_refused {left : Disk} {e : PathError}
    (h : d.makeDirectories path.parent = (left, none))
    (hwrite : left.writeFile path content (s.policy == .failOnExists) = .error e) :
    s.place d path content = refusal left path e := by
  rw [place, h]
  simp only [hwrite]
  cases e with
  | nullCharacter => rfl
  | system e q => cases e <;> rfl

theorem place_of_written {left : Disk} (h : d.makeDirectories path.parent = (left, none))
    (hwrite : left.writeFile path content (s.policy == .failOnExists) = .ok d') :
    s.place d path content = .ok ({ status := .written, path := path }, d', []) := by
  rw [place, h]
  simp only [hwrite]

/-- A write that goes on to put its content in place. -/
def Attempts (s : Sink) (d : Disk) (path : Path) : Prop :=
  s.policy = .forceOverwrite ∨ s.policy = .failOnExists ∧ d.exists? path = .ok false

theorem Attempts.ne_dryRun (h : s.Attempts d path) : s.policy ≠ .dryRun := by
  rintro hpolicy
  rcases h with hforce | ⟨hfail, -⟩
  · rw [hpolicy] at hforce
    cases hforce
  · rw [hpolicy] at hfail
    cases hfail

theorem write_of_attempts (content : String) (htarget : s.targetPath relative = .ok path)
    (h : s.Attempts d path) : s.write d relative content = s.place d path content := by
  rw [write, htarget]
  rcases h with hpolicy | ⟨hpolicy, hexists⟩
  · simp only [hpolicy]
  · simp only [hpolicy, hexists]

/-- The ways in which the write of an artifact ends. -/
inductive Ends (s : Sink) (d : Disk) (relative content : String) : Written → Prop
  | escapes {fault : Fault} (htarget : s.targetPath relative = .error fault) :
      Ends s d relative content
        (.ok ({ status := .error, path := s.root.join (Path.ofText relative),
                fault := some fault }, d, [Log.error fault.message]))
  | planned {path : Path} (htarget : s.targetPath relative = .ok path)
      (hpolicy : s.policy = .dryRun) :
      Ends s d relative content (.ok ({ status := .planned, path := path }, d, []))
  | unseen {path : Path} {e : PathError} (htarget : s.targetPath relative = .ok path)
      (hpolicy : s.policy = .failOnExists) (hexists : d.exists? path = .error e) :
      Ends s d relative content (.error { problem := e.problem, disk := d })
  | found {path : Path} (htarget : s.targetPath relative = .ok path)
      (hpolicy : s.policy = .failOnExists) (hexists : d.exists? path = .ok true) :
      Ends s d relative content
        (.ok ({ status := .skipped, path := path }, d, [skipEntry path]))
  | stopped {path : Path} {left : Disk} {e : PathError}
      (htarget : s.targetPath relative = .ok path) (hattempts : s.Attempts d path)
      (hmade : d.makeDirectories path.parent = (left, some e)) :
      Ends s d relative content (refusal left path e)
  | refused {path : Path} {left : Disk} {e : PathError}
      (htarget : s.targetPath relative = .ok path) (hattempts : s.Attempts d path)
      (hmade : d.makeDirectories path.parent = (left, none))
      (hwrite : left.writeFile path content (s.policy == .failOnExists) = .error e) :
      Ends s d relative content (refusal left path e)
  | written {path : Path} {left d' : Disk}
      (htarget : s.targetPath relative = .ok path) (hattempts : s.Attempts d path)
      (hmade : d.makeDirectories path.parent = (left, none))
      (hwrite : left.writeFile path content (s.policy == .failOnExists) = .ok d') :
      Ends s d relative content (.ok ({ status := .written, path := path }, d', []))

theorem ends_of_attempts (htarget : s.targetPath relative = .ok path) (h : s.Attempts d path) :
    s.Ends d relative content (s.place d path content) := by
  rcases hmade : d.makeDirectories path.parent with ⟨left, failure⟩
  cases failure with
  | some e =>
      rw [place_of_stopped hmade]
      exact .stopped htarget h hmade
  | none =>
      cases hwrite : left.writeFile path content (s.policy == .failOnExists) with
      | error e =>
          rw [place_of_refused hmade hwrite]
          exact .refused htarget h hmade hwrite
      | ok d' =>
          rw [place_of_written hmade hwrite]
          exact .written htarget h hmade hwrite

theorem write_ends (s : Sink) (d : Disk) (relative content : String) :
    s.Ends d relative content (s.write d relative content) := by
  cases htarget : s.targetPath relative with
  | error fault =>
      rw [write, htarget]
      exact .escapes htarget
  | ok path =>
      cases hpolicy : s.policy with
      | dryRun =>
          rw [write, htarget]
          simp only [hpolicy]
          exact .planned htarget hpolicy
      | forceOverwrite =>
          have hattempts : s.Attempts d path := .inl hpolicy
          rw [write_of_attempts content htarget hattempts]
          exact ends_of_attempts htarget hattempts
      | failOnExists =>
          cases hexists : d.exists? path with
          | error e =>
              rw [write, htarget]
              simp only [hpolicy, hexists]
              exact .unseen htarget hpolicy hexists
          | ok found =>
              cases found with
              | true =>
                  rw [write, htarget]
                  simp only [hpolicy, hexists]
                  exact .found htarget hpolicy hexists
              | false =>
                  have hattempts : s.Attempts d path := .inr ⟨hpolicy, hexists⟩
                  rw [write_of_attempts content htarget hattempts]
                  exact ends_of_attempts htarget hattempts

theorem fault_isSome_iff_of_refusal {left : Disk} {e : PathError}
    (h : refusal left path e = .ok (outcome, d', log)) :
    outcome.fault.isSome = true ↔ outcome.status = .error := by
  cases e with
  | nullCharacter => cases h
  | system e q =>
      cases e with
      | missing | taken | notDirectory | isDirectory | nameTooLong =>
          obtain ⟨rfl, -⟩ := Prod.mk.inj (Except.ok.inj h)
          simp

/-- An outcome has a fault exactly when it is an error. -/
theorem fault_isSome_iff_of_write (h : s.write d relative content = .ok (outcome, d', log)) :
    outcome.fault.isSome = true ↔ outcome.status = .error := by
  have hends := s.write_ends d relative content
  rw [h] at hends
  generalize hwritten : (Except.ok (outcome, d', log) : Written) = written at hends
  cases hends with
  | unseen => cases hwritten
  | stopped => exact fault_isSome_iff_of_refusal hwritten.symm
  | refused => exact fault_isSome_iff_of_refusal hwritten.symm
  | escapes | planned | found | written =>
      obtain ⟨rfl, -⟩ := Prod.mk.inj (Except.ok.inj hwritten)
      simp

end Sink
end Files
end TableCast
