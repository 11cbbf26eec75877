import TableCast.Proofs.Files.Directories

/-!
# Plain paths in closed trees

A path is plain when the names for the place above stand in front of all others.  In a tree where
every place that is left through a name is a directory, a plain path goes up along directories that
stand and then down to the place that its names say.  So the directories that are made on the way
of a plain path never bring to light anything that stood before but could not be reached.

**Results.**
* `Paved.status_eq`: what a plain path leads to, before and after directories are made.
* `stopsAtFile_iff`: making directories is stopped by a taken place exactly when the path itself is
  one of a file.
* `not_appearsAt`: nothing appears at a plain path when the directories above it are made.
-/

namespace TableCast
namespace Files

open Text

/-- Nothing but the name for the place above stands in front of such a name. -/
def PlainNames (names : List String) : Prop :=
  names.Pairwise fun before name => name = above → before = above

/-- A path in which the names for the place above stand in front of all others. -/
def Path.Plain (p : Path) : Prop := PlainNames p.names

theorem PlainNames.of_front {front names : List String} (h : PlainNames names)
    (hfront : front <+: names) : PlainNames front :=
  List.Pairwise.sublist hfront.sublist h

/-- Behind a name of its own a plain path has no name for the place above. -/
theorem PlainNames.not_mem_of_ne {name : String} {names : List String}
    (h : PlainNames (name :: names)) (hname : name ≠ above) : above ∉ name :: names := by
  rw [List.mem_cons, not_or]
  exact ⟨hname.symm, fun hmem => hname (List.rel_of_pairwise_cons h hmem rfl)⟩

theorem PlainNames.append {front back : List String} (h : PlainNames front)
    (hback : above ∉ back) : PlainNames (front ++ back) := by
  have hplain : PlainNames back :=
    List.pairwise_of_forall_mem_list fun _ _ name hname habove => absurd (habove ▸ hname) hback
  exact List.pairwise_append.mpr
    ⟨h, hplain, fun _ _ name hname habove => absurd (habove ▸ hname) hback⟩

/-- In front of a name for the place above there are only such names. -/
theorem PlainNames.eq_above_of_append {front back : List String} (h : PlainNames (front ++ back))
    (hback : above ∈ back) : ∀ name ∈ front, name = above :=
  fun name hname => (List.pairwise_append.mp h).2.2 name hname above hback rfl

namespace Disk

variable {d d' left : Disk} {p : Path} {place target : Place} {names front : List String}
variable {node : Node}

/-- A tree in which every place that is left through a name is a directory, with a directory to
work in. -/
structure IsTree (d : Disk) : Prop where
  closed : ∀ place name node, d.tree.node? (place ++ [name]) = some node →
    d.tree.node? place = some .directory
  working : d.tree.node? d.working = some .directory

/-- Whether a disk is such a tree can be read off its nodes. -/
theorem isTree_of_nodes
    (hnodes : ∀ entry ∈ d.tree.nodes, d.tree.node? entry.1.dropLast = some .directory)
    (hworking : d.tree.node? d.working = some .directory) : d.IsTree := by
  refine ⟨fun place name node hnode => ?_, hworking⟩
  have hempty : (place ++ [name]).isEmpty = false := by simp
  rw [Tree.node?, hempty] at hnode
  simp only [Bool.false_eq_true, if_false, Option.map_eq_some_iff] at hnode
  obtain ⟨entry, hentry, -⟩ := hnode
  have hplace : entry.1 = place ++ [name] := by simpa using List.find?_some hentry
  have hparent := hnodes entry (List.mem_of_find?_eq_some hentry)
  rwa [hplace, List.dropLast_concat] at hparent

theorem IsTree.directory_of_append (h : d.IsTree) (hnames : names ≠ []) :
    d.tree.node? (place ++ names) = some node → d.tree.node? place = some .directory := by
  induction names using List.reverseRecOn generalizing node with
  | nil => exact absurd rfl hnames
  | append_singleton front name ih =>
      intro hnode
      rw [← List.append_assoc] at hnode
      have hfront := h.closed _ _ _ hnode
      by_cases hempty : front = []
      · rwa [hempty, List.append_nil] at hfront
      · exact ih hempty hfront

/-- The place above a directory is a directory. -/
theorem IsTree.directory_above (h : d.IsTree) (hplace : d.tree.node? place = some .directory) :
    d.tree.node? place.dropLast = some .directory := by
  by_cases hempty : place = []
  · rw [hempty]
    rfl
  · rw [← List.dropLast_concat_getLast hempty] at hplace
    exact h.directory_of_append (List.cons_ne_nil _ _) hplace

theorem walkFrom_cons_of_ok {name : String} (h : d.walkFrom place (name :: names) = .ok target) :
    d.tree.node? place = some .directory ∧
      (name = above ∧ d.walkFrom place.dropLast names = .ok target ∨
        name ≠ above ∧ ¬name.utf8ByteSize > longestName ∧
          d.walkFrom (place ++ [name]) names = .ok target) := by
  rw [walkFrom] at h
  cases hnode : d.tree.node? place with
  | none =>
      rw [hnode] at h
      cases h
  | some node =>
      rw [hnode] at h
      cases node with
      | file content => cases h
      | directory =>
          refine ⟨rfl, ?_⟩
          dsimp only at h
          split_ifs at h with habove hlong
          · exact .inl ⟨beq_iff_eq.mp habove, h⟩
          · exact .inr ⟨fun heq => habove (beq_iff_eq.mpr heq), hlong, h⟩

theorem walkFrom_cons_above (h : d.tree.node? place = some .directory) :
    d.walkFrom place (above :: names) = d.walkFrom place.dropLast names := by
  rw [walkFrom, h]
  rfl

theorem walkFrom_cons_name {name : String} (h : d.tree.node? place = some .directory)
    (hname : name ≠ above) (hshort : ¬name.utf8ByteSize > longestName) :
    d.walkFrom place (name :: names) = d.walkFrom (place ++ [name]) names := by
  rw [walkFrom, h]
  dsimp only
  rw [if_neg (mt beq_iff_eq.mp hname), if_neg hshort]

/-- A walk downwards ends at the place that its names say. -/
theorem eq_append_of_walkFrom (habove : above ∉ names) :
    ∀ {place : Place}, d.walkFrom place names = .ok target → target = place ++ names := by
  induction names with
  | nil => exact fun h => (Except.ok.inj h).symm.trans (List.append_nil _).symm
  | cons name names ih =>
      intro place h
      rw [List.mem_cons, not_or] at habove
      rcases (walkFrom_cons_of_ok h).2 with ⟨hname, -⟩ | ⟨-, -, hnext⟩
      · exact absurd hname.symm habove.1
      · rw [ih habove.2 hnext, List.append_assoc, List.singleton_append]

/-- A walk downwards to something that stands in a tree can be made in that tree. -/
theorem walkFrom_down (hd : d.IsTree) (hnode : d.tree.node? target = some node)
    (habove : above ∉ names) :
    ∀ {place : Place}, left.walkFrom place names = .ok target →
      d.walkFrom place names = .ok target := by
  induction names with
  | nil => exact fun h => h
  | cons name names ih =>
      intro place h
      have htarget := eq_append_of_walkFrom habove h
      rw [List.mem_cons, not_or] at habove
      rcases (walkFrom_cons_of_ok h).2 with ⟨hname, -⟩ | ⟨hname, hshort, hnext⟩
      · exact absurd hname.symm habove.1
      · have hplace : d.tree.node? place = some .directory :=
          hd.directory_of_append (List.cons_ne_nil name names) (htarget ▸ hnode)
        rw [walkFrom_cons_name hplace hname hshort]
        exact ih habove.2 hnext

/-- A walk along plain names to something that stands in a tree can be made in that tree. -/
theorem walkFrom_of_stands (hd : d.IsTree) (hnode : d.tree.node? target = some node) :
    ∀ {names : List String} {place : Place}, PlainNames names →
      d.tree.node? place = some .directory → left.walkFrom place names = .ok target →
      d.walkFrom place names = .ok target := by
  intro names
  induction names with
  | nil => exact fun _ _ h => h
  | cons name names ih =>
      intro place hplain hplace h
      rcases (walkFrom_cons_of_ok h).2 with ⟨rfl, hnext⟩ | ⟨hname, -⟩
      · rw [walkFrom_cons_above hplace]
        exact ih (List.Pairwise.of_cons hplain) (hd.directory_above hplace) hnext
      · exact walkFrom_down hd hnode (hplain.not_mem_of_ne hname) h

/-- A walk upwards ends at a directory that stands. -/
theorem directory_of_ups (hd : d.IsTree) (hnames : ∀ name ∈ names, name = above) :
    ∀ {place : Place}, d.tree.node? place = some .directory →
      left.walkFrom place names = .ok target → d.tree.node? target = some .directory := by
  induction names with
  | nil => exact fun hplace h => Except.ok.inj h ▸ hplace
  | cons name names ih =>
      intro place hplace h
      rw [List.forall_mem_cons] at hnames
      rcases (walkFrom_cons_of_ok h).2 with ⟨-, hnext⟩ | ⟨hname, -⟩
      · exact ih hnames.2 (hd.directory_above hplace) hnext
      · exact absurd hnames.1 hname

theorem IsTree.origin (hd : d.IsTree) (p : Path) : d.tree.node? (d.origin p) = some .directory := by
  rw [Disk.origin]
  split_ifs
  · rfl
  · exact hd.working

/-- A plain path and a shorter one never lead to one place, unless that stood before. -/
theorem walkFrom_ne_of_shorter (hd : d.IsTree) (hplain : PlainNames (front ++ names))
    (hnames : names ≠ []) (hplace : d.tree.node? place = some .directory)
    (hfree : d.tree.node? target = none) (hfront : left.walkFrom place front = .ok target) :
    left.walkFrom place (front ++ names) ≠ .ok target := by
  intro h
  by_cases habove : above ∈ names
  · have hdirectory := directory_of_ups hd (hplain.eq_above_of_append habove) hplace hfront
    rw [hfree] at hdirectory
    cases hdirectory
  · rw [walkFrom_append, hfront] at h
    have htarget := eq_append_of_walkFrom habove h
    exact hnames (List.self_eq_append_right.mp htarget)

/-- Directories that are made in front of a plain path do not change what stands at it. -/
theorem Paved.status_of_parent (hd : d.IsTree) (hplain : p.Plain) (h : d.Paved p.parent left)
    (hstatus : left.status p = .ok node) : d.status p = .ok node := by
  obtain ⟨place, hwalk, hnode⟩ := status_eq_ok_iff.mp hstatus
  obtain ⟨husable, hfrom⟩ := walk_eq_ok_iff.mp hwalk
  rw [h.grows.keeps.origin_eq] at hfrom
  rcases h.new place node hnode with hold | ⟨hfree, -, front, ⟨back, hback⟩, hnew⟩
  · refine status_eq_ok_iff.mpr ⟨place, walk_eq_ok_iff.mpr ⟨husable, ?_⟩, hold⟩
    exact walkFrom_of_stands hd hold hplain (hd.origin p) hfrom
  · have hshorter := (walk_eq_ok_iff.mp hnew).2
    rw [h.grows.keeps.origin_eq] at hshorter
    have hne : p.names ≠ [] := by
      intro hnames
      rw [hnames] at hfrom
      rw [← Except.ok.inj hfrom, hd.origin p] at hfree
      cases hfree
    obtain ⟨name, hname⟩ := eq_concat_of_names hne
    have hsplit : p.names = front ++ (back ++ [name]) := by
      rw [hname, ← hback, List.append_assoc]
    rw [Path.Plain, hsplit] at hplain
    rw [hsplit] at hfrom
    exact absurd hfrom (walkFrom_ne_of_shorter hd hplain (by simp) (hd.origin p) hfree hshorter)

/-- No file comes to light on a plain path when directories are made. -/
theorem Paved.isFile_of_front (hd : d.IsTree) (hplain : PlainNames names)
    (h : d.Paved p left) (hfile : left.isFile { p with names := names } = true) :
    d.isFile { p with names := names } = true := by
  obtain ⟨content, hstatus⟩ := isFile_eq_true_iff.mp hfile
  obtain ⟨place, hwalk, hnode⟩ := status_eq_ok_iff.mp hstatus
  obtain ⟨husable, hfrom⟩ := walk_eq_ok_iff.mp hwalk
  rw [h.grows.keeps.origin_eq] at hfrom
  rcases h.new place _ hnode with hold | ⟨-, hdirectory, -⟩
  · refine isFile_eq_true_iff.mpr ⟨content, status_eq_ok_iff.mpr ⟨place, ?_, hold⟩⟩
    exact walk_eq_ok_iff.mpr ⟨husable, walkFrom_of_stands hd hold hplain (hd.origin _) hfrom⟩
  · cases hdirectory

/-- Behind a file every longer path is refused. -/
theorem walk_behind_file (hbegin : names <+: p.names) (hne : names ≠ p.names)
    (hfile : d.isFile { p with names := names } = true) :
    ∃ e, d.walk p = .error e ∧ ∀ q, e ≠ .system .missing q := by
  obtain ⟨content, hstatus⟩ := isFile_eq_true_iff.mp hfile
  obtain ⟨place, hwalk, hnode⟩ := status_eq_ok_iff.mp hstatus
  obtain ⟨back, hback⟩ := hbegin
  have hempty : back ≠ [] := by
    rintro rfl
    exact hne (hback ▸ (List.append_nil names).symm)
  obtain ⟨name, rest, rfl⟩ := List.exists_cons_of_ne_nil hempty
  have hrefused : d.walkFrom (d.origin p) p.names = .error .notDirectory := by
    rw [← hback, walkFrom_append, show d.walkFrom (d.origin p) names = .ok place from
      (walk_eq_ok_iff.mp hwalk).2]
    show d.walkFrom place (name :: rest) = _
    rw [walkFrom, hnode]
  cases herror : d.walk p with
  | ok q =>
      rw [(walk_eq_ok_iff.mp herror).2] at hrefused
      cases hrefused
  | error e =>
      refine ⟨e, rfl, fun q hq => ?_⟩
      have hwalked := d.walk_walked p
      rw [herror, hq] at hwalked
      cases hwalked with
      | refused _ hmissing =>
          rw [hrefused] at hmissing
          cases hmissing

/-- Making directories along a path is stopped by a place that is taken. -/
def StopsAtFile (d : Disk) (p : Path) : Prop :=
  ∃ q, (d.makeDirectories p).2 = some (.system .taken q)

theorem stopsAtFile_iff (hd : d.IsTree) (hplain : p.Plain) :
    d.StopsAtFile p ↔ d.isFile p = true := by
  constructor
  · rintro ⟨q, hstopped⟩
    have hway := makeDirectories_makesWay d p
    generalize hmade : d.makeDirectories p = result at hway hstopped
    cases hway with
    | made => cases hstopped
    | stopped hpaved _ _ htaken =>
        obtain ⟨names, hbegin, hfile⟩ := htaken q (Option.some.inj hstopped)
        have hfile' := hpaved.isFile_of_front hd (hplain.of_front hbegin) hfile
        by_cases hnames : names = p.names
        · rwa [hnames] at hfile'
        · obtain ⟨e, hwalk, hfirm⟩ := walk_behind_file hbegin hnames hfile'
          rw [makeDirectories_of_refused hwalk hfirm] at hmade
          have herror : e = .system .taken q :=
            (Option.some.inj (Prod.mk.inj hmade).2).trans (Option.some.inj hstopped)
          exact absurd (herror ▸ hwalk) (walk_ne_taken q)
  · intro hfile
    obtain ⟨content, hstatus⟩ := isFile_eq_true_iff.mp hfile
    exact ⟨p, by rw [makeDirectories_of_file hstatus]⟩

/-- Something stands at a path once directories are made above it. -/
def AppearsAt (d : Disk) (p : Path) : Prop :=
  (d.makeDirectories p.parent).2 = none ∧
    ∃ node, (d.makeDirectories p.parent).1.status p = .ok node

/-- Nothing appears on a plain path when the directories above it are made. -/
theorem not_appearsAt (hd : d.IsTree) (hplain : p.Plain) (h : d.exists? p = .ok false) :
    ¬d.AppearsAt p := by
  rintro ⟨hnone, node, hstatus⟩
  have hway := makeDirectories_makesWay d p.parent
  rw [show d.makeDirectories p.parent = ((d.makeDirectories p.parent).1, none) from
    Prod.ext rfl hnone] at hway
  cases hway with
  | made hpaved =>
      rw [exists?_eq_true_iff.mpr ⟨node, hpaved.status_of_parent hd hplain hstatus⟩] at h
      cases h

end Disk
end Files
end TableCast
