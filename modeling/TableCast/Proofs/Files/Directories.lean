import TableCast.Proofs.Files.Walks

/-!
# Directories along a path

Making the directories along a path adds directories and nothing else, all of them on the way of
the path.  Either the path leads to a directory in the end, or something blocks it for good, and
then making the directories again changes nothing.

**Results.**
* `makeDirectories_makesWay`: what making directories leads to.
* `Paved.content?_eq`: no file is added, removed or changed.
* `makeDirectories_of_directory`, `makeDirectories_of_blocked`: the second time.
-/

namespace TableCast
namespace Files
namespace Disk

section Paved

variable {d d' d'' : Disk} {p : Path} {place : Place}

/-- A disk that has some more directories on the way of a path than another. -/
structure Paved (d : Disk) (p : Path) (d' : Disk) : Prop where
  grows : d.Grows d'
  new : ∀ place node, d'.tree.node? place = some node → d.tree.node? place = some node ∨
    d.tree.node? place = none ∧ node = .directory ∧
      ∃ names, names <+: p.names ∧ d'.walk { p with names := names } = .ok place

theorem Paved.refl (d : Disk) (p : Path) : d.Paved p d :=
  ⟨Grows.refl d, fun _ _ h => .inl h⟩

theorem Paved.trans (h : d.Paved p d') (h' : d'.Paved p d'') : d.Paved p d'' := by
  refine ⟨h.grows.trans h'.grows, fun place node hnode => ?_⟩
  rcases h'.new place node hnode with hold | ⟨hfree, hnew⟩
  · rcases h.new place node hold with holder | ⟨hfree, hdirectory, names, hbegin, hwalk⟩
    · exact .inl holder
    · exact .inr ⟨hfree, hdirectory, names, hbegin, walk_of_keeps h'.grows.keeps hwalk nofun⟩
  · right
    refine ⟨?_, hnew⟩
    cases hbefore : d.tree.node? place with
    | none => rfl
    | some other =>
        rw [h.grows.kept place other hbefore] at hfree
        cases hfree

theorem Paved.of_parent (h : d.Paved p.parent d') : d.Paved p d' := by
  refine ⟨h.grows, fun place node hnode => (h.new place node hnode).imp_right ?_⟩
  rintro ⟨hfree, hdirectory, names, hbegin, hwalk⟩
  exact ⟨hfree, hdirectory, names, hbegin.trans p.names_parent, hwalk⟩

/-- Every file stands as before, and there is no other one. -/
theorem Paved.content?_eq (h : d.Paved p d') (place : Place) :
    d'.tree.content? place = d.tree.content? place := by
  refine Option.ext fun content => ?_
  rw [content?_eq_some_iff, content?_eq_some_iff]
  constructor
  · intro hnode
    rcases h.new place _ hnode with hold | ⟨-, hdirectory, -⟩
    · exact hold
    · cases hdirectory
  · exact h.grows.kept place _

end Paved

section Making

variable {d d' : Disk} {p : Path}

theorem makeDirectory_of_status {node : Node} (h : d.status p = .ok node) :
    d.makeDirectory p = .error (.system .taken p) := by
  obtain ⟨place, hwalk, hnode⟩ := status_eq_ok_iff.mp h
  rw [makeDirectory, hwalk]
  simp only [bind, Except.bind, hnode]

theorem makeDirectory_of_walk_error {e : PathError} (h : d.walk p = .error e) :
    d.makeDirectory p = .error e := by
  rw [makeDirectory, h]
  rfl

theorem makeDirectory_of_free {place : Place} (h : d.walk p = .ok place)
    (hfree : d.tree.node? place = none) :
    d.makeDirectory p = .ok { d with tree := d.tree.put place .directory } := by
  rw [makeDirectory, h]
  simp only [bind, Except.bind, hfree]

/-- Where a path leads to: a free place, something that stands, or nowhere. -/
theorem lead_cases (d : Disk) (p : Path) :
    (∃ place, d.walk p = .ok place ∧ d.tree.node? place = none) ∨
      (∃ node, d.status p = .ok node) ∨ ∃ e, d.walk p = .error e := by
  cases hwalk : d.walk p with
  | error e => exact .inr (.inr ⟨e, rfl⟩)
  | ok place =>
      cases hnode : d.tree.node? place with
      | none => exact .inl ⟨place, rfl, hnode⟩
      | some node => exact .inr (.inl ⟨node, status_eq_ok_iff.mpr ⟨place, hwalk, hnode⟩⟩)

/-- What making directories along a path leads to: a directory stands at the path, or something
blocks the path. -/
inductive MakesWay (d : Disk) (p : Path) : Disk × Option PathError → Prop
  | made {d' : Disk} (hpaved : d.Paved p d') (hdirectory : d'.status p = .ok .directory) :
      MakesWay d p (d', none)
  | stopped {d' : Disk} {e : PathError} (hpaved : d.Paved p d') (hblocked : d'.Blocked p)
      (hnull : e = .nullCharacter ↔ hasNull p = true)
      (htaken : ∀ q, e = .system .taken q →
        ∃ names, names <+: p.names ∧ d'.isFile { p with names := names } = true) :
      MakesWay d p (d', some e)

theorem settleDirectory_system (d : Disk) (p q : Path) (e : SystemError) :
    d.settleDirectory p (.error (.system e q)) =
      if d.isDirectory p then (d, none) else (d, some (.system e q)) := rfl

theorem settleDirectory_of_not_directory (h : ¬d.status p = .ok .directory) (e : PathError) :
    d.settleDirectory p (.error e) = (d, some e) := by
  cases e with
  | nullCharacter => rfl
  | system e q =>
      rw [settleDirectory_system, if_neg (mt isDirectory_eq_true_iff.mp h)]

/-- A way that is not missing a place, so that only the last directory is to be made. -/
def Firm (d : Disk) (p : Path) : Prop := ∀ q, d.walk p ≠ .error (.system .missing q)

theorem Firm.of_status {node : Node} (h : d.status p = .ok node) : d.Firm p := by
  intro q hq
  rw [status_of_walk_error hq] at h
  cases h

theorem Blocked.firm (h : d.Blocked p) : d.Firm p := by
  intro q hq
  cases h with
  | refused hrefused he => exact he q (Except.error.inj (hrefused.symm.trans hq))
  | file hstatus => exact Firm.of_status hstatus q hq

/-- The last directory of a path. -/
theorem makesWay_settle (h : d.Firm p) :
    d.MakesWay p (d.settleDirectory p (d.makeDirectory p)) := by
  rcases lead_cases d p with ⟨place, hwalk, hfree⟩ | ⟨node, hstatus⟩ | ⟨e, hwalk⟩
  · have hgrows := Grows.put hfree .directory
    have hplace : place ≠ [] := ne_nil_of_node? (by rw [hfree]; exact nofun)
    have hwalk' := walk_of_keeps hgrows.keeps hwalk nofun
    rw [makeDirectory_of_free hwalk hfree]
    refine .made ⟨hgrows, fun other node hnode => ?_⟩ (status_eq_ok_iff.mpr ⟨place, hwalk', ?_⟩)
    · rw [node?_put hplace] at hnode
      split_ifs at hnode with hother
      · subst hother
        exact .inr ⟨hfree, (Option.some.inj hnode).symm, p.names, List.prefix_rfl, hwalk'⟩
      · exact .inl hnode
    · rw [node?_put hplace, if_pos rfl]
  · rw [makeDirectory_of_status hstatus]
    cases node with
    | directory =>
        rw [settleDirectory_system, if_pos (isDirectory_eq_true_iff.mpr hstatus)]
        exact .made (Paved.refl d p) hstatus
    | file content =>
        have hblocked : d.Blocked p := .file hstatus
        rw [settleDirectory_of_not_directory hblocked.not_directory]
        refine .stopped (Paved.refl d p) hblocked ⟨nofun, fun hnull => ?_⟩ fun q _ => ?_
        · obtain ⟨place, hwalk, -⟩ := status_eq_ok_iff.mp hstatus
          rw [walk_of_null hnull] at hwalk
          cases hwalk
        · exact ⟨p.names, List.prefix_rfl, isFile_eq_true_iff.mpr ⟨content, hstatus⟩⟩
  · have hblocked : d.Blocked p := .refused hwalk fun q hq => h q (hq ▸ hwalk)
    rw [makeDirectory_of_walk_error hwalk,
      settleDirectory_of_not_directory hblocked.not_directory]
    refine .stopped (Paved.refl d p) hblocked ?_ fun q hq => absurd (hq ▸ hwalk) (walk_ne_taken q)
    rw [← @walk_eq_null_iff d p, hwalk]
    exact ⟨fun he => he ▸ rfl, fun he => Except.error.inj he⟩

/-- Where a place is missing, the last directory is made behind those above it. -/
theorem makeDirectoriesUpTo_of_made {q : Path} {fuel : Nat}
    (h : d.makeDirectory p = .error (.system .missing q))
    (hmade : makeDirectoriesUpTo fuel d p.parent = (d', none)) :
    makeDirectoriesUpTo (fuel + 1) d p = d'.settleDirectory p (d'.makeDirectory p) := by
  simp only [makeDirectoriesUpTo, h, hmade]

theorem makeDirectoriesUpTo_of_stopped {q : Path} {fuel : Nat} {e : PathError}
    (h : d.makeDirectory p = .error (.system .missing q))
    (hmade : makeDirectoriesUpTo fuel d p.parent = (d', some e)) :
    makeDirectoriesUpTo (fuel + 1) d p = (d', some e) := by
  simp only [makeDirectoriesUpTo, h, hmade]

theorem makeDirectory_missing_iff {q : Path} :
    d.makeDirectory p = .error (.system .missing q) ↔ d.walk p = .error (.system .missing q) := by
  rcases lead_cases d p with ⟨place, hwalk, hfree⟩ | ⟨node, hstatus⟩ | ⟨e, hwalk⟩
  · rw [hwalk, makeDirectory_of_free hwalk hfree]
    exact ⟨nofun, nofun⟩
  · obtain ⟨place, hwalk, -⟩ := status_eq_ok_iff.mp hstatus
    rw [hwalk, makeDirectory_of_status hstatus]
    exact ⟨nofun, nofun⟩
  · rw [hwalk, makeDirectory_of_walk_error hwalk]
    exact ⟨fun he => congrArg _ (Except.error.inj he), fun he => congrArg _ (Except.error.inj he)⟩

theorem makeDirectoriesUpTo_of_firm (h : d.Firm p) (fuel : Nat) :
    makeDirectoriesUpTo fuel d p = d.settleDirectory p (d.makeDirectory p) := by
  cases fuel with
  | zero => rfl
  | succ fuel =>
      rw [makeDirectoriesUpTo]
      split
      case h_1 q hmissing => exact absurd (makeDirectory_missing_iff.mp hmissing) (h q)
      case h_2 => rfl

theorem usable_of_missing {q : Path} (h : d.walk p = .error (.system .missing q)) :
    p.Usable ∧ p.names ≠ [] := by
  have hwalked := d.walk_walked p
  rw [h] at hwalked
  cases hwalked with
  | refused husable hwalk =>
      refine ⟨husable, fun hnames => ?_⟩
      rw [hnames] at hwalk
      cases hwalk

/-- Making directories upwards, as far as there are names: induction on the bound, where a place
that is missing hands on to the path above. -/
theorem makeDirectoriesUpTo_makesWay (fuel : Nat) :
    ∀ {p : Path}, p.names.length ≤ fuel → d.MakesWay p (makeDirectoriesUpTo fuel d p) := by
  induction fuel with
  | zero =>
      intro p hlength
      refine makesWay_settle fun q hmissing => (usable_of_missing hmissing).2 ?_
      exact List.length_eq_zero_iff.mp (by omega)
  | succ fuel ih =>
      intro p hlength
      by_cases hmissing : ∃ q, d.walk p = .error (.system .missing q)
      · obtain ⟨q, hwalk⟩ := hmissing
        obtain ⟨husable, hnames⟩ := usable_of_missing hwalk
        have hparent : p.parent.names.length ≤ fuel := by
          have hdrop : p.parent.names.length = p.names.length - 1 := List.length_dropLast
          omega
        have hfirst := makeDirectory_missing_iff.mpr hwalk
        have hway := ih hparent
        generalize hmade : makeDirectoriesUpTo fuel d p.parent = result at hway
        cases hway with
        | @made d' hpaved hdirectory =>
            have hfirm : d'.Firm p := by
              intro q hq
              rcases walk_of_directory hdirectory husable hnames with ⟨place, hok⟩ | hlong
              · rw [hok] at hq
                cases hq
              · rw [hlong] at hq
                cases hq
            have hlast := makesWay_settle hfirm
            rw [makeDirectoriesUpTo_of_made hfirst hmade]
            generalize d'.settleDirectory p (d'.makeDirectory p) = last at hlast
            cases hlast with
            | made hpaved' hdirectory' => exact .made (hpaved.of_parent.trans hpaved') hdirectory'
            | stopped hpaved' hblocked hnull htaken =>
                exact .stopped (hpaved.of_parent.trans hpaved') hblocked hnull htaken
        | @stopped d' e hpaved hblocked hnull htaken =>
            obtain ⟨e', hrefused, he'⟩ := hblocked.child husable hnames
            rw [makeDirectoriesUpTo_of_stopped hfirst hmade]
            refine .stopped hpaved.of_parent (.refused hrefused he') ?_ fun q hq => ?_
            · rw [hnull, husable.plain, (husable.parent hnames).plain]
            · obtain ⟨names, hbegin, hfile⟩ := htaken q hq
              exact ⟨names, hbegin.trans p.names_parent, hfile⟩
      · have hfirm : d.Firm p := fun q hq => hmissing ⟨q, hq⟩
        rw [makeDirectoriesUpTo_of_firm hfirm]
        exact makesWay_settle hfirm

theorem makeDirectories_makesWay (d : Disk) (p : Path) : d.MakesWay p (d.makeDirectories p) :=
  makeDirectoriesUpTo_makesWay p.names.length le_rfl

theorem Paved.of_makeDirectories {failure : Option PathError}
    (h : d.makeDirectories p = (d', failure)) : d.Paved p d' := by
  have hway := makeDirectories_makesWay d p
  rw [h] at hway
  cases hway with
  | made hpaved => exact hpaved
  | stopped hpaved => exact hpaved

/-- Directories that stand are not made again. -/
theorem makeDirectories_of_directory (h : d.status p = .ok .directory) :
    d.makeDirectories p = (d, none) := by
  rw [makeDirectories, makeDirectoriesUpTo_of_firm (Firm.of_status h), makeDirectory_of_status h,
    settleDirectory_system, if_pos (isDirectory_eq_true_iff.mpr h)]

/-- Where a file stands no directory is made. -/
theorem makeDirectories_of_file {content : String} (h : d.status p = .ok (.file content)) :
    d.makeDirectories p = (d, some (.system .taken p)) := by
  have hblocked : d.Blocked p := .file h
  rw [makeDirectories, makeDirectoriesUpTo_of_firm hblocked.firm, makeDirectory_of_status h,
    settleDirectory_of_not_directory hblocked.not_directory]

theorem makeDirectories_of_refused {e : PathError} (h : d.walk p = .error e)
    (he : ∀ q, e ≠ .system .missing q) : d.makeDirectories p = (d, some e) := by
  have hblocked : d.Blocked p := .refused h he
  rw [makeDirectories, makeDirectoriesUpTo_of_firm hblocked.firm, makeDirectory_of_walk_error h,
    settleDirectory_of_not_directory hblocked.not_directory]

/-- Where a path is blocked nothing is made. -/
theorem makeDirectories_of_blocked (h : d.Blocked p) : ∃ e, d.makeDirectories p = (d, some e) := by
  cases h with
  | refused hrefused he => exact ⟨_, makeDirectories_of_refused hrefused he⟩
  | file hstatus => exact ⟨_, makeDirectories_of_file hstatus⟩

end Making
end Disk
end Files
end TableCast
