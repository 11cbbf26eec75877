import TableCast.Files.Sink
import TableCast.Proofs.Fallible
import TableCast.Proofs.Text.Pieces

/-!
# Where artifacts are written

The path of an artifact is refused when it is absolute or has a name for the place above.  Any other
path adds single names to the output root, so it leads below the root, also once the names for the
place above in the root are taken away.

**Results.**
* `targetPath_join`: a directory and a file name lead two steps below the root.
* `targetPath_cases`: a path is refused or leads below the root, whatever its text is.
-/

namespace TableCast
namespace Files

open Text

/-- A name that leads one step down. -/
structure IsStep (name : String) : Prop where
  ne_empty : name ≠ ""
  ne_here : name ≠ "."
  ne_above : name ≠ above
  single : '/' ∉ name.toList

section Paths

variable {name directory text : String} {parts : List String}

theorem isStep_of_mem_namesOf (h : name ∈ Path.namesOf text) (hname : name ≠ above) :
    IsStep name := by
  obtain ⟨hsplit, hkept⟩ := List.mem_filter.mp h
  obtain ⟨piece, hpiece, rfl⟩ := List.mem_map.mp hsplit
  simp only [Bool.and_eq_true, Bool.not_eq_true', bne_iff_ne, ne_eq] at hkept
  refine ⟨fun hempty => ?_, hkept.2, hname, ?_⟩
  · rw [hempty] at hkept
    exact absurd hkept.1 (by decide)
  · rw [String.toList_ofList]
    exact not_mem_of_mem_splitOnChar hpiece

/-- The names in a text of a directory and a file name are these two. -/
theorem namesOf_join (hdirectory : IsStep directory) (hname : IsStep name) :
    Path.namesOf (directory ++ "/" ++ name) = [directory, name] := by
  have htext : (directory ++ "/" ++ name).toList = directory.toList ++ '/' :: name.toList := by
    rw [String.toList_append, String.toList_append, List.append_assoc]
    rfl
  have hkept : ∀ {part : String}, IsStep part → (!part.isEmpty && part != ".") = true := by
    intro part hpart
    have hempty : part.isEmpty = false := by
      rw [Bool.eq_false_iff, ne_eq, String.isEmpty_iff]
      exact hpart.ne_empty
    rw [hempty, bne_iff_ne.mpr hpart.ne_here]
    rfl
  rw [Path.namesOf, splitOn, htext, splitOnChar_append, splitOnChar_of_not_mem hdirectory.single,
    splitOnChar_of_not_mem hname.single]
  simp only [List.cons_append, List.nil_append, List.map_cons, List.map_nil, String.ofList_toList]
  rw [List.filter_eq_self]
  intro part hpart
  rcases List.mem_pair.mp hpart with rfl | rfl
  · exact hkept hdirectory
  · exact hkept hname

theorem rootOf_eq_empty (hdirectory : IsStep directory) (rest : String) :
    Path.rootOf (directory ++ rest) = "" := by
  have hne : directory.toList ≠ [] := by
    intro hnil
    exact hdirectory.ne_empty (String.toList_eq_nil_iff.mp hnil)
  obtain ⟨c, cs, hchars⟩ := List.exists_cons_of_ne_nil hne
  have hc : (c == '/') = false := by
    rw [beq_eq_false_iff_ne]
    rintro rfl
    exact hdirectory.single (hchars ▸ List.mem_cons_self ..)
  rw [Path.rootOf, String.toList_append, hchars, List.cons_append, List.takeWhile_cons, hc]
  rfl

/-- A path of a directory and a file name leads two steps down. -/
theorem targetPath_join (hdirectory : IsStep directory) (hname : IsStep name) (s : Sink) :
    s.targetPath (directory ++ "/" ++ name) =
      .ok { s.root with names := s.root.names ++ [directory, name] } := by
  have hnames := namesOf_join hdirectory hname
  have hroot : Path.rootOf (directory ++ "/" ++ name) = "" := by
    rw [String.append_assoc]
    exact rootOf_eq_empty hdirectory _
  have habove : above ∉ [directory, name] := by
    rw [List.mem_pair, not_or]
    exact ⟨hdirectory.ne_above.symm, hname.ne_above.symm⟩
  rw [Sink.targetPath, Path.ofText, hnames, hroot]
  have hescapes : (Path.isAbsolute { root := "", names := [directory, name] } ||
      [directory, name].contains above) = false := by
    rw [Bool.or_eq_false_iff]
    exact ⟨rfl, Bool.eq_false_iff.mpr fun h => habove (List.contains_iff_mem.mp h)⟩
  simp only [hescapes, Bool.false_eq_true, if_false]

/-- Names that lead down are kept when names for the place above are taken away. -/
theorem collapse_append (h : above ∉ parts) (names : List String) :
    Path.collapse (names ++ parts) = Path.collapse names ++ parts := by
  induction parts using List.reverseRecOn with
  | nil => rw [List.append_nil, List.append_nil]
  | append_singleton parts name ih =>
      rw [List.mem_append, not_or, List.mem_singleton] at h
      have hname : (name == above) = false := beq_eq_false_iff_ne.mpr fun heq => h.2 heq.symm
      rw [← List.append_assoc, ← List.append_assoc, ← ih h.1, Path.collapse, Path.collapse,
        List.foldl_append, List.foldl_cons, List.foldl_nil, hname]
      rfl

/-- A path that lies below another one, and still does once both are made absolute and plain. -/
structure Below (root path : Path) (parts : List String) : Prop where
  extends_root : path = { root with names := root.names ++ parts }
  steps : ∀ part ∈ parts, IsStep part
  normalized : ∀ working, Path.normalized working path =
    { Path.normalized working root with names := (Path.normalized working root).names ++ parts }

theorem below_of_steps (root : Path) (h : ∀ part ∈ parts, IsStep part) :
    Below root { root with names := root.names ++ parts } parts := by
  refine ⟨rfl, h, fun working => ?_⟩
  have habove : above ∉ parts := fun hmem => (h above hmem).ne_above rfl
  have hsame : Path.isAbsolute { root with names := root.names ++ parts } = root.isAbsolute := rfl
  rw [Path.normalized, Path.normalized, Path.join, Path.join, hsame]
  split_ifs
  · rw [collapse_append habove]
  · rw [← List.append_assoc, collapse_append habove]

/-- A path starts at the root of all files when its text starts with a slash. -/
theorem rootOf_ne_empty_iff : Path.rootOf text ≠ "" ↔ text.toList.head? = some '/' := by
  rw [Path.rootOf]
  cases text.toList with
  | nil => decide
  | cons c cs =>
      rw [List.takeWhile_cons, List.head?_cons, Option.some.injEq]
      by_cases hc : c = '/'
      · rw [hc]
        simp only [beq_self_eq_true, if_true, List.length_cons, iff_true]
        split
        · rename_i hlength
          omega
        · decide
        · decide
      · simp [hc]

theorem above_mem_namesOf_iff : above ∈ Path.namesOf text ↔ above ∈ splitOn text '/' := by
  rw [Path.namesOf, List.mem_filter]
  exact and_iff_left (by decide)

/-- A path is refused when it starts with a slash or has a name for the place above between its
slashes.  Any other path leads below the root. -/
theorem targetPath_cases (s : Sink) (text : String) :
    ((text.toList.head? = some '/' ∨ above ∈ splitOn text '/') ∧
      ∃ fault, s.targetPath text = .error fault) ∨
    ∃ path parts, s.targetPath text = .ok path ∧ Below s.root path parts := by
  rw [Sink.targetPath]
  dsimp only
  split_ifs with hescapes
  · refine Or.inl ⟨?_, _, rfl⟩
    rw [Bool.or_eq_true, List.contains_iff_mem] at hescapes
    rcases hescapes with habsolute | habove
    · refine Or.inl (rootOf_ne_empty_iff.mp fun hempty => ?_)
      rw [Path.isAbsolute, Path.ofText, hempty] at habsolute
      cases habsolute
    · exact Or.inr (above_mem_namesOf_iff.mp habove)
  · rw [Bool.or_eq_true, not_or] at hescapes
    refine Or.inr ⟨_, (Path.ofText text).names, rfl, below_of_steps _ fun part hpart => ?_⟩
    refine isStep_of_mem_namesOf hpart ?_
    rintro rfl
    exact hescapes.2 (List.contains_iff_mem.mpr hpart)

end Paths

end Files

end TableCast
