import TableCast.Proofs.Emit.ArtifactPaths
import TableCast.Proofs.Files.TargetPaths
import TableCast.Proofs.Model.NameRules

/-!
# Artifacts stay below the output root

The path of an artifact is the directory of its kind and a file name.  Both are single names: the
file name is spelled from the type name, and neither a slash nor a dot is ever spelled, whatever the
names of tables and columns are.

**Results.**
* `name_of_plan`: artifacts are named after the types of an entity and its repository.
* `isStep_fileName`: a spelled name gives the name of a file.
* `outputs_below_root`: the paths of all planned artifacts are accepted and lead to a file in the
  directory of their kind, and no other path leads out of the root.
-/

namespace TableCast

namespace Emit

open Text Name Model Schema Files

section Plans

variable {set : TemplateSet} {options : RenderOptions} {e : Entity} {p : Plan}

/-- The names of the artifacts of an entity are those of its types and of its repository. -/
theorem name_of_plan (hcompanion : NamesRepository e) (hp : p ∈ plan set options e) :
    p.name ∈ e.typeNames ∨ p.name = Normalizer.repositoryName e.typeName := by
  rw [plan, List.mem_append, List.mem_append, List.mem_singleton] at hp
  rcases hp with (rfl | hp) | hp
  · exact Or.inl (List.mem_cons_self ..)
  · split_ifs at hp with hrepository
    · rw [List.mem_singleton.mp hp]
      rcases hcompanion with hnone | hsome
      · rw [hasRepository, hnone] at hrepository
        simp at hrepository
      · rw [hsome]
        exact Or.inr rfl
    · exact absurd hp List.not_mem_nil
  · split_ifs at hp
    · obtain ⟨t, ht, rfl⟩ := List.mem_map.mp hp
      exact Or.inl (List.mem_cons_of_mem _ (List.mem_map_of_mem ht))
    · exact absurd hp List.not_mem_nil

/-- A spelled name with an ending is the name of a file. -/
theorem isStep_fileName {name : String} (hset : set ∈ builtinSets) (h : everyText.Spells name) :
    IsStep (set.fileName name) := by
  have hstep : ∀ {stem extension : String}, everyText.Spells stem → 3 ≤ extension.toList.length →
      '/' ∉ extension.toList → IsStep (stem ++ extension) := by
    intro stem extension hstem hlength hslash
    have hlong : ∀ other : String, other.toList.length < 3 → stem ++ extension ≠ other := by
      intro other hshort heq
      have hlengths := congrArg (fun s => s.toList.length) heq
      simp only [String.toList_append, List.length_append] at hlengths
      omega
    refine ⟨hlong _ (by decide), hlong _ (by decide), hlong _ (by decide), ?_⟩
    rw [String.toList_append, List.mem_append, not_or]
    have htame : isTame '/' = false := by decide
    refine ⟨fun hmem => ?_, hslash⟩
    rw [show isTame '/' = true from hstem '/' hmem] at htame
    cases htame
  rcases List.mem_pair.mp hset with rfl | rfl
  · exact hstep h (by decide) (by decide)
  · exact hstep (Alphabet.spells_snake (Alphabet.reads_everyText name)) (by decide) (by decide)

theorem isStep_directoryOf (hset : set ∈ builtinSets) (kind : ArtifactKind) :
    IsStep (set.directoryOf kind) := by
  rcases List.mem_pair.mp hset with rfl | rfl
  · cases kind with
    | entity | repository | enum => exact ⟨by decide, by decide, by decide, by decide⟩
  · cases kind with
    | entity | repository | enum => exact ⟨by decide, by decide, by decide, by decide⟩

theorem relativePath_eq (hset : set ∈ builtinSets) (kind : ArtifactKind) (name : String) :
    set.relativePath kind name = set.directoryOf kind ++ "/" ++ set.fileName name := by
  have hempty : (set.directoryOf kind).isEmpty = false := by
    rw [Bool.eq_false_iff, ne_eq, String.isEmpty_iff]
    exact (isStep_directoryOf hset kind).ne_empty
  rw [TemplateSet.relativePath]
  simp only [hempty, Bool.false_eq_true, if_false]

end Plans

section Runs

variable {a : Assembler} {names : List String} {tables : List Table}
variable {failures : List (String × String)} {result : Assembly}
variable {set : TemplateSet} {options : RenderOptions} {e : Entity} {p : Plan}

/-- The path of a planned artifact is accepted. -/
theorem targetPath_of_plan
    (h : a.assemble names tables failures = .ok result) (hset : set ∈ builtinSets)
    (he : e ∈ result.entities) (hp : p ∈ plan set options e) (s : Sink) :
    s.targetPath (set.relativePath p.kind p.name) =
      .ok { s.root with names := s.root.names ++ [set.directoryOf p.kind, set.fileName p.name] } ∧
    IsStep (set.directoryOf p.kind) ∧ IsStep (set.fileName p.name) := by
  have hspells : everyText.Spells p.name := by
    have htypes := (spelledNames_of_mem h he).types
    rcases name_of_plan (namesRepository_of_mem h e he) hp with hname | hname
    · exact htypes p.name hname
    · rw [hname]
      exact (htypes e.typeName (List.mem_cons_self ..)).append (Alphabet.spells_of_plain rfl)
  have hdirectory := isStep_directoryOf hset p.kind
  have hfile := isStep_fileName hset hspells
  rw [relativePath_eq hset]
  exact ⟨targetPath_join hdirectory hfile s, hdirectory, hfile⟩

/-- The paths of all planned artifacts are accepted: they lead to a single name in the directory of
their kind.  And whatever the text of a path is, it is refused or leads below the root. -/
theorem outputs_below_root :
    (∀ (a : Assembler) (names : List String) (tables : List Table)
        (failures : List (String × String)) (result : Assembly),
      a.assemble names tables failures = .ok result →
      ∀ set ∈ builtinSets, ∀ (options : RenderOptions), ∀ e ∈ result.entities,
      ∀ p ∈ plan set options e, ∀ s : Sink,
        s.targetPath (set.relativePath p.kind p.name) =
          .ok { s.root with
            names := s.root.names ++ [set.directoryOf p.kind, set.fileName p.name] } ∧
        IsStep (set.directoryOf p.kind) ∧ IsStep (set.fileName p.name)) ∧
    ∀ (s : Sink) (text : String),
      ((text.toList.head? = some '/' ∨ above ∈ splitOn text '/') ∧
        ∃ fault, s.targetPath text = .error fault) ∨
      ∃ path parts, s.targetPath text = .ok path ∧ Below s.root path parts :=
  ⟨fun _ _ _ _ _ h _ hset _ _ he _ hp s => targetPath_of_plan h hset he hp s, targetPath_cases⟩

/-- A table whose name leads out of the root, if it is read as a path. -/
def climbing : Table :=
  { name := "../../etc/passwd", columns := [{ name := "/", nativeType := "int" }] }

theorem outputs_below_root_of_climbing :
    ∃ result, forPython.assemble ["../../etc/passwd"] [climbing] [] = .ok result ∧
      ∃ e ∈ result.entities, e.name = "../../etc/passwd" ∧
        ∀ set ∈ builtinSets, ∀ p ∈ plan set {} e, ∀ s : Sink,
          s.targetPath (set.relativePath p.kind p.name) =
            .ok { s.root with
              names := s.root.names ++ [set.directoryOf p.kind, set.fileName p.name] } := by
  have hsources : ∀ table ∈ [climbing], ∀ key ∈ table.foreignKeys, key.sourceColumns ≠ [] := by
    decide
  obtain ⟨result, h⟩ := Assembler.assemble_total (a := forPython) (typeName_total rfl) hsources
    ["../../etc/passwd"] []
  obtain ⟨e, he, hname⟩ := Assembler.exists_entity h
    (show keptTable? [climbing] climbing.name = some climbing from rfl) (by
    intro typeNames
    have hlists : consideredLists climbing = [] := by simp [consideredLists, climbing]
    rw [Assembler.tablesByName_singleton, Assembler.extract, Assembler.tableEnums, enumTypes,
      hlists]
    exact ⟨_, rfl⟩)
  exact ⟨result, h, e, he, hname, fun set hset p hp s =>
    (outputs_below_root.1 forPython _ _ _ result h set hset {} e he p hp s).1⟩

end Runs

end Emit
end TableCast
