import Mathlib
import TableCast.Files.Tree

/-!
# Walks through a tree that grows

A walk follows the names of a path and stops at the first that it cannot enter.  When files and
directories are added to a tree, a walk that came to its end still does, and one that was stopped
by a file or by a name that is too long is stopped there again.  Only a place that was missing
can be filled.

**Invariants.**  `Disk.Grows` says that nothing that stood is gone or changed, `Disk.Keeps` that at
most the contents of files are, and `Disk.Blocked` that no directory can ever stand at a path
while the disk only grows.

**Results.**
* `walk_of_keeps`: what a walk keeps.
* `Blocked.of_grows`: what is blocked stays blocked.
* `Blocked.child`: nothing behind a blocked path can be made.
-/

namespace TableCast
namespace Files

open Text

section Trees

variable {t : Tree} {place other : Place} {node : Node}

theorem find?_putNode (nodes : List (Place × Node)) :
    (Tree.putNode place node nodes).find? (·.1 == other) =
      if other = place then some (place, node) else nodes.find? (·.1 == other) := by
  induction nodes with
  | nil =>
      rw [Tree.putNode]
      by_cases h : place = other
      · simp [h]
      · simp [beq_eq_false_iff_ne.mpr h, Ne.symm h]
  | cons first rest ih =>
      obtain ⟨p, n⟩ := first
      rw [Tree.putNode]
      by_cases hp : p = place
      · subst hp
        by_cases h : p = other
        · simp [h]
        · simp [h, Ne.symm h]
      · by_cases h : p = other
        · subst h
          simp [hp]
        · simp [hp, h, ih]

/-- A node that is put somewhere else than at the root stands there, and nothing else changes. -/
theorem node?_put (h : place ≠ []) :
    (t.put place node).node? other = if other = place then some node else t.node? other := by
  have hplace : place.isEmpty = false := by simpa using h
  by_cases hother : other = place
  · subst hother
    simp [Tree.node?, Tree.put, hplace, find?_putNode]
  · simp only [Tree.node?, Tree.put, find?_putNode, if_neg hother]

theorem ne_nil_of_node? (h : t.node? place ≠ some .directory) : place ≠ [] := by
  rintro rfl
  exact h rfl

theorem content?_eq_some_iff {content : String} :
    t.content? place = some content ↔ t.node? place = some (.file content) := by
  rw [Tree.content?]
  cases t.node? place with
  | none => simp
  | some node =>
      cases node with
      | directory => simp
      | file content' => simp

end Trees

section Paths

variable {p : Path} {front : List String} {name : String}

/-- A path that the operating system looks at: it has no null character and is not too long. -/
structure Path.Usable (p : Path) : Prop where
  plain : Disk.hasNull p = false
  short : ¬p.text.utf8ByteSize ≥ longestPath

theorem joinWith_concat {sep : String} (h : front ≠ []) :
    joinWith sep (front ++ [name]) = joinWith sep front ++ sep ++ name := by
  obtain ⟨first, rest, rfl⟩ := List.exists_cons_of_ne_nil h
  rw [List.cons_append, joinWith, List.foldl_append]
  rfl

theorem eq_concat_of_names (h : p.names ≠ []) :
    ∃ name, p.names = p.parent.names ++ [name] :=
  ⟨p.names.getLast h, (List.dropLast_concat_getLast h).symm⟩

theorem Path.names_parent (p : Path) : p.parent.names <+: p.names :=
  List.dropLast_prefix p.names

theorem short_parent (h : p.names = p.parent.names ++ [name])
    (hshort : ¬p.text.utf8ByteSize ≥ longestPath) : ¬p.parent.text.utf8ByteSize ≥ longestPath := by
  have htext : p.text = p.root ++ joinWith "/" (p.parent.names ++ [name]) := by
    rw [Path.text, h]
    simp
  have hroot : p.parent.root = p.root := rfl
  rw [htext] at hshort
  rw [Path.text, hroot]
  by_cases hnames : p.parent.names = []
  · rw [hnames] at hshort ⊢
    by_cases hempty : p.root = ""
    · have hpoint : ".".utf8ByteSize = 1 := rfl
      simp [hempty, longestPath, hpoint]
    · simp [hempty, joinWith, longestPath] at hshort ⊢
      omega
  · rw [joinWith_concat hnames] at hshort
    simp [hnames, longestPath] at hshort ⊢
    omega

theorem hasNull_of_parent (h : Disk.hasNull p.parent = true) : Disk.hasNull p = true := by
  rw [Disk.hasNull, List.any_eq_true] at h ⊢
  obtain ⟨name, hname, hnull⟩ := h
  exact ⟨name, List.dropLast_subset _ hname, hnull⟩

/-- The path above a path that can be looked at is one too. -/
theorem Path.Usable.parent (h : p.Usable) (hnames : p.names ≠ []) : p.parent.Usable := by
  obtain ⟨name, hname⟩ := eq_concat_of_names hnames
  refine ⟨Bool.eq_false_iff.mpr fun hnull => ?_, short_parent hname h.short⟩
  have hplain := h.plain
  rw [hasNull_of_parent hnull] at hplain
  cases hplain

end Paths

namespace Disk

section Walks

variable {d d' : Disk} {p : Path} {place place' : Place} {names : List String}

/-- Where a walk along a path begins. -/
def origin (d : Disk) (p : Path) : Place := if p.isAbsolute then [] else d.working

theorem walk_of_usable (h : p.Usable) :
    d.walk p = (d.walkFrom (d.origin p) p.names).mapError (.system · p) := by
  rw [walk, if_neg (by rw [h.plain]; exact Bool.false_ne_true), if_neg h.short]
  rfl

theorem walk_of_null (h : hasNull p = true) : d.walk p = .error .nullCharacter := by
  rw [walk, if_pos h]

theorem walk_of_long (hplain : hasNull p = false) (hlong : p.text.utf8ByteSize ≥ longestPath) :
    d.walk p = .error (.system .nameTooLong p) := by
  rw [walk, if_neg (by rw [hplain]; exact Bool.false_ne_true), if_pos hlong]

/-- How a walk ends: the path cannot be used, a name of it leads nowhere, or the walk arrives. -/
inductive Walked (d : Disk) (p : Path) : Except PathError Place → Prop
  | null (hnull : hasNull p = true) : Walked d p (.error .nullCharacter)
  | long (hplain : hasNull p = false) (hlong : p.text.utf8ByteSize ≥ longestPath) :
      Walked d p (.error (.system .nameTooLong p))
  | refused {e : SystemError} (husable : p.Usable)
      (hwalk : d.walkFrom (d.origin p) p.names = .error e) : Walked d p (.error (.system e p))
  | arrived {place : Place} (husable : p.Usable)
      (hwalk : d.walkFrom (d.origin p) p.names = .ok place) : Walked d p (.ok place)

theorem walk_walked (d : Disk) (p : Path) : d.Walked p (d.walk p) := by
  by_cases hnull : hasNull p = true
  · rw [walk_of_null hnull]
    exact .null hnull
  · have hplain : hasNull p = false := Bool.eq_false_iff.mpr hnull
    by_cases hlong : p.text.utf8ByteSize ≥ longestPath
    · rw [walk_of_long hplain hlong]
      exact .long hplain hlong
    · have husable : p.Usable := ⟨hplain, hlong⟩
      rw [walk_of_usable husable]
      cases hwalk : d.walkFrom (d.origin p) p.names with
      | error e => exact .refused husable hwalk
      | ok place => exact .arrived husable hwalk

theorem walk_eq_ok_iff :
    d.walk p = .ok place ↔ p.Usable ∧ d.walkFrom (d.origin p) p.names = .ok place := by
  constructor
  · intro h
    have hwalked := d.walk_walked p
    rw [h] at hwalked
    cases hwalked with
    | arrived husable hwalk => exact ⟨husable, hwalk⟩
  · rintro ⟨husable, h⟩
    rw [walk_of_usable husable, h]
    rfl

theorem walk_eq_null_iff : d.walk p = .error .nullCharacter ↔ hasNull p = true := by
  refine ⟨fun h => ?_, walk_of_null⟩
  have hwalked := d.walk_walked p
  rw [h] at hwalked
  cases hwalked with
  | null hnull => exact hnull

theorem walkFrom_ne_taken : ∀ {place : Place}, d.walkFrom place names ≠ .error .taken := by
  induction names with
  | nil => exact nofun
  | cons name names ih =>
      intro place
      rw [walkFrom]
      cases d.tree.node? place with
      | none => exact nofun
      | some node =>
          cases node with
          | file content => exact nofun
          | directory =>
              dsimp only
              split_ifs
              · exact ih
              · exact nofun
              · exact ih

/-- No walk is stopped because a place is taken. -/
theorem walk_ne_taken (q : Path) : d.walk p ≠ .error (.system .taken q) := by
  intro h
  have hwalked := d.walk_walked p
  rw [h] at hwalked
  cases hwalked with
  | refused _ hwalk => exact walkFrom_ne_taken hwalk

/-- A walk along two lists of names goes on where the first one ends. -/
theorem walkFrom_append (front back : List String) :
    ∀ place : Place, d.walkFrom place (front ++ back) =
      (d.walkFrom place front).bind fun next => d.walkFrom next back := by
  induction front with
  | nil => exact fun _ => rfl
  | cons name front ih =>
      intro place
      rw [List.cons_append, walkFrom, walkFrom]
      cases d.tree.node? place with
      | none => rfl
      | some node =>
          cases node with
          | file content => rfl
          | directory =>
              dsimp only
              split_ifs
              · exact ih _
              · rfl
              · exact ih _

/-- A name that is entered from a directory leads to a place or is too long. -/
theorem walkFrom_single (h : d.tree.node? place = some .directory) (name : String) :
    (∃ next, d.walkFrom place [name] = .ok next) ∨
      d.walkFrom place [name] = .error .nameTooLong := by
  rw [walkFrom, h]
  dsimp only
  split_ifs
  · exact .inl ⟨_, rfl⟩
  · exact .inr rfl
  · exact .inl ⟨_, rfl⟩

end Walks

section Growth

variable {d d' d'' : Disk} {p : Path} {place place' : Place} {names : List String}
variable {node : Node} {e : PathError}

/-- A disk on which directories and files stand where they stood on another; files may have other
contents. -/
structure Keeps (d d' : Disk) : Prop where
  working : d'.working = d.working
  directories : ∀ place, d.tree.node? place = some .directory →
    d'.tree.node? place = some .directory
  files : ∀ place content, d.tree.node? place = some (.file content) →
    ∃ content', d'.tree.node? place = some (.file content')

/-- A disk on which everything stands unchanged that stood on another. -/
structure Grows (d d' : Disk) : Prop where
  working : d'.working = d.working
  kept : ∀ place node, d.tree.node? place = some node → d'.tree.node? place = some node

theorem Grows.refl (d : Disk) : d.Grows d := ⟨rfl, fun _ _ h => h⟩

theorem Grows.trans (h : d.Grows d') (h' : d'.Grows d'') : d.Grows d'' :=
  ⟨h'.working.trans h.working, fun place node hnode => h'.kept place node (h.kept place node hnode)⟩

theorem Grows.keeps (h : d.Grows d') : d.Keeps d' :=
  ⟨h.working, fun place => h.kept place _, fun place content hnode =>
    ⟨content, h.kept place _ hnode⟩⟩

/-- A disk grows by a node at a place where nothing stood. -/
theorem Grows.put (hfree : d.tree.node? place = none) (node : Node) :
    d.Grows { d with tree := d.tree.put place node } := by
  have hplace : place ≠ [] := ne_nil_of_node? (by rw [hfree]; exact nofun)
  refine ⟨rfl, fun other stood hstood => ?_⟩
  have hne : other ≠ place := by
    rintro rfl
    rw [hfree] at hstood
    cases hstood
  show (d.tree.put place node).node? other = _
  rw [node?_put hplace, if_neg hne]
  exact hstood

/-- A file that is put where no directory stands keeps everything else in its place. -/
theorem Keeps.put_file (hnode : d.tree.node? place ≠ some .directory) (content : String) :
    d.Keeps { d with tree := d.tree.put place (.file content) } := by
  have hput : ∀ other, (d.tree.put place (.file content)).node? other =
      if other = place then some (.file content) else d.tree.node? other :=
    fun other => node?_put (ne_nil_of_node? hnode)
  refine ⟨rfl, fun other hother => ?_, fun other old hother => ?_⟩
  · have hne : other ≠ place := by
      rintro rfl
      exact hnode hother
    show (d.tree.put place (.file content)).node? other = _
    rw [hput, if_neg hne]
    exact hother
  · show ∃ content', (d.tree.put place (.file content)).node? other = _
    rw [hput]
    split_ifs
    · exact ⟨content, rfl⟩
    · exact ⟨old, hother⟩

/-- A walk ends as before, unless a place was missing. -/
theorem walkFrom_of_keeps (h : d.Keeps d') {r : Except SystemError Place}
    (hr : r ≠ .error .missing) :
    ∀ {place : Place}, d.walkFrom place names = r → d'.walkFrom place names = r := by
  induction names with
  | nil => exact fun hwalk => hwalk
  | cons name names ih =>
      intro place hwalk
      rw [walkFrom] at hwalk ⊢
      cases hnode : d.tree.node? place with
      | none =>
          rw [hnode] at hwalk
          exact absurd hwalk.symm hr
      | some node =>
          rw [hnode] at hwalk
          cases node with
          | file content =>
              obtain ⟨content', hfile⟩ := h.files place content hnode
              rw [hfile]
              exact hwalk
          | directory =>
              rw [h.directories place hnode]
              dsimp only at hwalk ⊢
              split_ifs at hwalk ⊢
              · exact ih hwalk
              · exact hwalk
              · exact ih hwalk

theorem Keeps.origin_eq (h : d.Keeps d') : d'.origin p = d.origin p := by
  rw [origin, origin, h.working]

theorem walk_of_keeps (h : d.Keeps d') {r : Except PathError Place} (hwalk : d.walk p = r)
    (hr : ∀ q, r ≠ .error (.system .missing q)) : d'.walk p = r := by
  have hwalked := d.walk_walked p
  rw [hwalk] at hwalked
  cases hwalked with
  | null hnull => exact walk_of_null hnull
  | long hplain hlong => exact walk_of_long hplain hlong
  | @refused e husable hrefused =>
      have hfirm : (.error e : Except SystemError Place) ≠ .error .missing := by
        intro hmissing
        obtain rfl := Except.error.inj hmissing
        exact hr p rfl
      rw [walk_of_usable husable, h.origin_eq, walkFrom_of_keeps h hfirm hrefused]
      rfl
  | @arrived place husable harrived =>
      have hfirm : (.ok place : Except SystemError Place) ≠ .error .missing := nofun
      rw [walk_of_usable husable, h.origin_eq, walkFrom_of_keeps h hfirm harrived]
      rfl

theorem status_eq_ok_iff :
    d.status p = .ok node ↔ ∃ place, d.walk p = .ok place ∧ d.tree.node? place = some node := by
  rw [status]
  cases hwalk : d.walk p with
  | error e =>
      constructor
      · exact nofun
      · rintro ⟨place, h, -⟩
        cases h
  | ok place =>
      simp only [bind, Except.bind]
      cases hnode : d.tree.node? place with
      | none =>
          constructor
          · exact nofun
          · rintro ⟨other, h, hother⟩
            rw [← Except.ok.inj h, hnode] at hother
            cases hother
      | some found =>
          constructor
          · intro h
            exact ⟨place, rfl, hnode.trans (congrArg some (Except.ok.inj h))⟩
          · rintro ⟨other, h, hother⟩
            rw [← Except.ok.inj h, hnode] at hother
            rw [Option.some.inj hother]

theorem status_of_grows (h : d.Grows d') (hstatus : d.status p = .ok node) :
    d'.status p = .ok node := by
  obtain ⟨place, hwalk, hnode⟩ := status_eq_ok_iff.mp hstatus
  exact status_eq_ok_iff.mpr ⟨place, walk_of_keeps h.keeps hwalk nofun, h.kept place node hnode⟩

theorem status_of_walk_error (h : d.walk p = .error e) : d.status p = .error e := by
  rw [status, h]
  rfl

theorem exists?_eq_true_iff : d.exists? p = .ok true ↔ ∃ node, d.status p = .ok node := by
  rw [exists?]
  cases d.status p with
  | ok node => simp
  | error e =>
      cases e with
      | nullCharacter => simp
      | system e q => cases e <;> simp

/-- A path that leads to a place can be looked at. -/
theorem exists?_of_walk (h : d.walk p = .ok place) : ∃ found, d.exists? p = .ok found := by
  cases hnode : d.tree.node? place with
  | some node => exact ⟨true, exists?_eq_true_iff.mpr ⟨node, status_eq_ok_iff.mpr ⟨place, h, hnode⟩⟩⟩
  | none =>
      have hstatus : d.status p = .error (.system .missing p) := by
        rw [status, h]
        simp only [bind, Except.bind, hnode]
      exact ⟨false, by rw [exists?, hstatus]⟩

/-- What cannot be looked at cannot be looked at later either. -/
theorem exists?_error_of_grows (h : d.exists? p = .error e) (hgrows : d.Grows d') :
    d'.exists? p = .error e := by
  cases hwalk : d.walk p with
  | ok place =>
      obtain ⟨found, hfound⟩ := exists?_of_walk hwalk
      rw [hfound] at h
      cases h
  | error e' =>
      rw [exists?, status_of_walk_error hwalk] at h
      have hwalk' : d'.walk p = .error e' := by
        refine walk_of_keeps hgrows.keeps hwalk fun q hq => ?_
        rw [Except.error.inj hq] at h
        cases h
      rw [exists?, status_of_walk_error hwalk']
      exact h

theorem isDirectory_eq_true_iff : d.isDirectory p = true ↔ d.status p = .ok .directory := by
  rw [isDirectory]
  cases d.status p with
  | error e => simp
  | ok node => cases node <;> simp

theorem isFile_eq_true_iff : d.isFile p = true ↔ ∃ content, d.status p = .ok (.file content) := by
  rw [isFile]
  cases d.status p with
  | error e => simp
  | ok node => cases node <;> simp

end Growth

section Blocked

variable {d d' : Disk} {p : Path}

/-- No directory can ever stand at a path: the walk along it is refused for another reason than
a missing place, or a file stands there. -/
inductive Blocked (d : Disk) (p : Path) : Prop
  | refused {e : PathError} (h : d.walk p = .error e) (he : ∀ q, e ≠ .system .missing q)
  | file {content : String} (h : d.status p = .ok (.file content))

theorem Blocked.of_grows (h : d.Blocked p) (hgrows : d.Grows d') : d'.Blocked p := by
  cases h with
  | refused hwalk he =>
      refine .refused (walk_of_keeps hgrows.keeps hwalk fun q hq => ?_) he
      exact he q (Except.error.inj hq)
  | file hstatus => exact .file (status_of_grows hgrows hstatus)

theorem Blocked.not_directory (h : d.Blocked p) : ¬d.status p = .ok .directory := by
  intro hdirectory
  cases h with
  | refused hwalk he =>
      rw [status_of_walk_error hwalk] at hdirectory
      cases hdirectory
  | file hstatus =>
      rw [hstatus] at hdirectory
      cases hdirectory

/-- A walk along a path begins with the walk along the path above. -/
theorem walk_eq_parent (husable : p.Usable) (hnames : p.names ≠ []) :
    ∃ name, d.walk p =
      ((d.walkFrom (d.origin p.parent) p.parent.names).bind fun place =>
        d.walkFrom place [name]).mapError (.system · p) := by
  obtain ⟨name, hname⟩ := eq_concat_of_names hnames
  refine ⟨name, ?_⟩
  rw [walk_of_usable husable, hname, walkFrom_append]
  rfl

/-- Nothing can be made behind a path that is blocked. -/
theorem Blocked.child (h : d.Blocked p.parent) (husable : p.Usable) (hnames : p.names ≠ []) :
    ∃ e, d.walk p = .error e ∧ ∀ q, e ≠ .system .missing q := by
  obtain ⟨name, hwalk⟩ := @walk_eq_parent d p husable hnames
  have hparent := husable.parent hnames
  cases h with
  | refused hrefused he =>
      rw [walk_of_usable hparent] at hrefused
      cases hfront : d.walkFrom (d.origin p.parent) p.parent.names with
      | ok place =>
          rw [hfront] at hrefused
          cases hrefused
      | error e' =>
          rw [hfront] at hrefused hwalk
          refine ⟨.system e' p, hwalk, fun q hq => ?_⟩
          obtain ⟨rfl, -⟩ := PathError.system.inj hq
          exact he p.parent (Except.error.inj hrefused).symm
  | file hstatus =>
      obtain ⟨place, hplace, hnode⟩ := status_eq_ok_iff.mp hstatus
      rw [(walk_eq_ok_iff.mp hplace).2] at hwalk
      refine ⟨.system .notDirectory p, ?_, fun q hq => ?_⟩
      · rw [hwalk]
        show ((d.walkFrom place [name]).mapError (PathError.system · p)) = _
        rw [walkFrom, hnode]
        rfl
      · cases hq

/-- Behind a directory there is a place, or the name is too long. -/
theorem walk_of_directory (h : d.status p.parent = .ok .directory) (husable : p.Usable)
    (hnames : p.names ≠ []) :
    (∃ place, d.walk p = .ok place) ∨ d.walk p = .error (.system .nameTooLong p) := by
  obtain ⟨name, hwalk⟩ := @walk_eq_parent d p husable hnames
  obtain ⟨place, hplace, hnode⟩ := status_eq_ok_iff.mp h
  rw [(walk_eq_ok_iff.mp hplace).2] at hwalk
  rcases walkFrom_single hnode name with ⟨next, hnext⟩ | hlong
  · exact .inl ⟨next, hwalk.trans (congrArg (Except.mapError (PathError.system · p)) hnext)⟩
  · exact .inr (hwalk.trans (congrArg (Except.mapError (PathError.system · p)) hlong))

end Blocked

end Disk
end Files
end TableCast
