import TableCast.Model.Assembly
import TableCast.Proofs.Fallible

/-!
# The passes of an assembly

An assembly reads its tables by name, names the types, gives every table its columns, links
the tables that got them, and closes their entities.  Here each pass is described on its own,
without the log and without the accumulator that carries it.

**Passes.**
* `extracted`: the entities of the tables that get their columns.
* `linkEntity`: an entity with its associations, and the warnings about them.
* `passes`: all of them, for tables that are already in order.

**Results.**
* `entities_foldl_extractInto`, `foldlM_linkInto`: what the accumulator has after a pass.
* `assemble_cases`: an assembly stops where its passes stop; else its entities are those of the
  passes, closed, and its notes are those of each pass in turn.
* `assemble_passes`: what a finished assembly consists of.
-/

namespace TableCast
namespace Model

open Name Schema Fallible

/-- An entity that can no longer be changed. -/
def Entity.closed (e : Entity) : Entity := { e with state := .finalized }

namespace Assembler

section Passes

variable (a : Assembler)

/-- The table that an entity was made from. -/
def sourceTable (tables : List Table) (entity : Entity) : Table :=
  (tableNamed? tables entity.name).getD { name := entity.name, columns := [] }

/-- The entities of the tables that get their columns. -/
def extracted (typeNames : List (String × String)) (tables : List Table) : List Entity :=
  tables.filterMap fun table => (a.extract typeNames tables table).2.toOption

/-- What is noted about a table while it gets its columns. -/
def extractionNotes (typeNames : List (String × String)) (tables : List Table) (table : Table) :
    List Diagnostic :=
  (a.extract typeNames tables table).1 ++
    match (a.extract typeNames tables table).2 with
    | .error e => [Diagnostic.ofFault (some table.name) e.fault none]
    | .ok _ => []

/-- An entity with its associations, and the warnings about them. -/
def linkEntity (tables : List Table) (entities : List Entity) (entity : Entity) :
    Except AssemblyError (Entity × List Diagnostic) :=
  match link a.normalizer entity (sourceTable tables entity) entities tables with
  | .error stop => .error (.ofLink stop.error)
  | .ok (associations, warnings) =>
    .ok ({ entity with associations := associations, state := .associationsLinked }, warnings)

/-- The names of the types of a run. -/
def runTypeNames (candidates : List (String × String)) : List (String × String) :=
  (Scope.assign {} candidates).1

/-- The linked entities of tables that are in order, each with the warnings about it. -/
def passes (tables : List Table) : Except AssemblyError (List (Entity × List Diagnostic)) := do
  let candidates ← (a.typeCandidates tables).mapError .number
  let entities := a.extracted (runTypeNames candidates) tables
  entities.mapM (a.linkEntity tables entities)

end Passes

section Extraction

variable (a : Assembler) (typeNames : List (String × String)) (tables : List Table)

theorem entities_extractInto (assembly : Assembly) (table : Table) :
    (a.extractInto typeNames tables assembly table).entities =
      assembly.entities ++ (a.extract typeNames tables table).2.toOption.toList := by
  unfold extractInto
  rcases a.extract typeNames tables table with ⟨warnings, e | entity⟩
  · simp [excludeTable, Except.toOption]
  · simp [Except.toOption]

theorem diagnostics_extractInto (assembly : Assembly) (table : Table) :
    (a.extractInto typeNames tables assembly table).diagnostics =
      assembly.diagnostics ++ a.extractionNotes typeNames tables table := by
  unfold extractInto extractionNotes
  rcases a.extract typeNames tables table with ⟨warnings, e | entity⟩
  · simp [excludeTable]
  · simp

/-- The first pass collects the entities of the tables that get their columns. -/
theorem entities_foldl_extractInto (rest : List Table) (assembly : Assembly) :
    (rest.foldl (a.extractInto typeNames tables) assembly).entities =
      assembly.entities ++
        rest.filterMap fun table => (a.extract typeNames tables table).2.toOption := by
  induction rest generalizing assembly with
  | nil => simp
  | cons table rest ih =>
      rw [List.foldl_cons, ih, entities_extractInto, List.append_assoc, List.filterMap_cons]
      cases (a.extract typeNames tables table).2.toOption with
      | none => rfl
      | some entity => rfl

/-- The first pass collects what is noted about each table. -/
theorem diagnostics_foldl_extractInto (rest : List Table) (assembly : Assembly) :
    (rest.foldl (a.extractInto typeNames tables) assembly).diagnostics =
      assembly.diagnostics ++ rest.flatMap (a.extractionNotes typeNames tables) := by
  induction rest generalizing assembly with
  | nil => simp
  | cons table rest ih =>
      rw [List.foldl_cons, ih, diagnostics_extractInto, List.flatMap_cons, List.append_assoc]

end Extraction

section Linking

variable (a : Assembler) (tables : List Table) (entities : List Entity)

theorem linkInto_eq (assembly : Assembly) (entity : Entity) :
    a.linkInto tables entities assembly entity =
      match link a.normalizer entity (sourceTable tables entity) entities tables with
      | .error stop => .error {
          error := .ofLink stop.error
          log := assembly.log ++ warningsLog stop.diagnostics }
      | .ok (associations, warnings) => .ok { assembly with
          entities := assembly.entities ++
            [{ entity with associations := associations, state := .associationsLinked }]
          diagnostics := assembly.diagnostics ++ warnings
          log := assembly.log ++ warningsLog warnings } := by
  show (Except.mapError _ (link a.normalizer entity (sourceTable tables entity) entities tables)
    >>= _) = _
  cases link a.normalizer entity (sourceTable tables entity) entities tables with
  | error stop => rfl
  | ok result => rfl

/-- The second pass stops where the linking of an entity stops, and else it collects the
linked entities and the warnings about them. -/
theorem foldlM_linkInto (rest : List Entity) (assembly : Assembly) :
    (∃ stop, rest.mapM (a.linkEntity tables entities) = .error stop.error ∧
      rest.foldlM (a.linkInto tables entities) assembly = .error stop) ∨
    (∃ linked next, rest.mapM (a.linkEntity tables entities) = .ok linked ∧
      rest.foldlM (a.linkInto tables entities) assembly = .ok next ∧
      next.entities = assembly.entities ++ linked.map (·.1) ∧
      next.failures = assembly.failures ∧
      next.diagnostics = assembly.diagnostics ++ linked.flatMap (·.2)) := by
  induction rest generalizing assembly with
  | nil =>
      right
      exact ⟨[], assembly, rfl, rfl, by simp, rfl, by simp⟩
  | cons entity rest ih =>
      rw [List.mapM_cons, List.foldlM_cons, linkInto_eq, linkEntity]
      cases link a.normalizer entity (sourceTable tables entity) entities tables with
      | error stop =>
          left
          exact ⟨_, rfl, rfl⟩
      | ok result =>
          obtain ⟨associations, warnings⟩ := result
          dsimp only [bind, Except.bind]
          rcases ih { assembly with
              entities := assembly.entities ++
                [{ entity with associations := associations, state := .associationsLinked }]
              diagnostics := assembly.diagnostics ++ warnings
              log := assembly.log ++ warningsLog warnings } with
            ⟨stop, hmap, hfold⟩ | ⟨linked, next, hmap, hfold, hentities, hfailures, hnotes⟩
          · left
            exact ⟨stop, by rw [hmap], hfold⟩
          · right
            refine ⟨({ entity with associations := associations, state := .associationsLinked },
              warnings) :: linked, next, by rw [hmap]; rfl, hfold, ?_, hfailures, ?_⟩
            · rw [hentities, List.map_cons, List.append_assoc, List.singleton_append]
            · rw [hnotes, List.flatMap_cons, List.append_assoc]

end Linking

section Closing

/-- A linked entity can be closed. -/
theorem finalize_linked {entity : Entity} (h : entity.state = .associationsLinked) :
    entity.finalize = .ok entity.closed := by
  have hopen : entity.isFinalized = false := by
    rw [Entity.isFinalized, h]
    rfl
  rw [Entity.finalize, Entity.change, hopen]
  rfl

theorem mapM_finalize
    {entities : List Entity} (f : FinalizedChange → AssemblyStop)
    (h : ∀ entity ∈ entities, entity.state = .associationsLinked) :
    (entities.mapM fun e => e.finalize.mapError f) = .ok (entities.map Entity.closed) := by
  rw [mapM_eq_ok, List.forall₂_map_right_iff, List.forall₂_same]
  intro entity hentity
  rw [finalize_linked (h entity hentity)]
  rfl

end Closing

section Whole

variable {a : Assembler} {tables : List Table}

theorem linkEntity_ok
    {entities : List Entity} {entity : Entity} {linked : Entity × List Diagnostic}
    (h : a.linkEntity tables entities entity = .ok linked) :
    ∃ associations,
      link a.normalizer entity (sourceTable tables entity) entities tables =
        .ok (associations, linked.2) ∧
      linked.1 = { entity with associations := associations, state := .associationsLinked } := by
  rw [linkEntity] at h
  cases hlink : link a.normalizer entity (sourceTable tables entity) entities tables with
  | error stop =>
      rw [hlink] at h
      cases h
  | ok result =>
      rw [hlink] at h
      cases h
      exact ⟨_, rfl, rfl⟩

/-- The note about a selected table that has neither an entity nor a failure. -/
def missingNote (name : String) : Diagnostic :=
  Diagnostic.ofFault (some name) (TableError.unfinished name .pending).fault none

theorem foldl_excludeTable (missing : List String) (assembly : Assembly) :
    (missing.foldl (fun all name => excludeTable all name (.unfinished name .pending))
        assembly).entities = assembly.entities ∧
    (missing.foldl (fun all name => excludeTable all name (.unfinished name .pending))
        assembly).failures = missing.foldl (fun all name =>
          putFailure name (TableError.unfinished name .pending).fault.message all)
        assembly.failures ∧
    (missing.foldl (fun all name => excludeTable all name (.unfinished name .pending))
        assembly).diagnostics = assembly.diagnostics ++ missing.map missingNote := by
  induction missing generalizing assembly with
  | nil => exact ⟨rfl, rfl, (List.append_nil _).symm⟩
  | cons name missing ih =>
      obtain ⟨hentities, hfailures, hnotes⟩ :=
        ih (excludeTable assembly name (.unfinished name .pending))
      rw [List.foldl_cons]
      refine ⟨hentities, hfailures, ?_⟩
      rw [hnotes, List.map_cons]
      exact List.append_assoc ..

/-- The first pass of an assembly. -/
def firstPass (a : Assembler) (tables : List Table) (candidates : List (String × String))
    (failures : List (String × String)) : Assembly :=
  tables.foldl (a.extractInto (runTypeNames candidates) tables) {
    failures := failures.foldl (fun all (name, reason) => putFailure name reason all) []
    log := a.typeCandidatesLog tables }

/-- The selected names that have neither an entity nor a failure. -/
def missingNames (names : List String) (entities : List Entity)
    (failures : List (String × String)) : List String :=
  (Scope.sortedDistinct names).filter fun name =>
    !(entities.any (·.name == name)) && !(failures.any (·.1 == name))

/-- The passes of an assembly after the first. -/
def laterPasses (a : Assembler) (names : List String) (tables : List Table) (first : Assembly) :
    Except AssemblyStop Assembly := do
  let linked ← first.entities.foldlM (a.linkInto tables first.entities)
    { first with entities := [] }
  let finished ← linked.entities.mapM fun e => e.finalize.mapError fun change =>
    { error := .finalized change, log := linked.log }
  let done := { linked with
    entities := finished
    log := linked.log ++ finished.map mappedEntry }
  return (missingNames names finished linked.failures).foldl
    (fun all name => excludeTable all name (.unfinished name .pending)) done

/-- An assembly is its first pass and then the later ones. -/
theorem assemble_eq (a : Assembler) (names : List String) (tables : List Table)
    (failures : List (String × String)) :
    a.assemble names tables failures =
      match a.typeCandidates (tablesByName tables) with
      | .error e => .error {
          error := .number e
          log := a.typeCandidatesLog (tablesByName tables) }
      | .ok candidates => a.laterPasses names (tablesByName tables)
          (a.firstPass (tablesByName tables) candidates failures) := by
  show (Except.mapError _ (a.typeCandidates (tablesByName tables)) >>= _) = _
  cases a.typeCandidates (tablesByName tables) with
  | error e => rfl
  | ok candidates => rfl

theorem passes_eq
    {candidates : List (String × String)} (h : a.typeCandidates tables = .ok candidates) :
    a.passes tables =
      (a.extracted (runTypeNames candidates) tables).mapM
        (a.linkEntity tables (a.extracted (runTypeNames candidates) tables)) := by
  rw [passes, h]
  rfl

theorem entities_firstPass (candidates failures : List (String × String)) :
    (a.firstPass tables candidates failures).entities =
      a.extracted (runTypeNames candidates) tables := by
  rw [firstPass, entities_foldl_extractInto]
  rfl

theorem diagnostics_firstPass (candidates failures : List (String × String)) :
    (a.firstPass tables candidates failures).diagnostics =
      tables.flatMap (a.extractionNotes (runTypeNames candidates) tables) := by
  rw [firstPass, diagnostics_foldl_extractInto]
  rfl

/-- The later passes stop where the linking stops, and else they close the linked entities
and note the selected tables that are missing. -/
theorem laterPasses_cases (a : Assembler) (names : List String) (tables : List Table)
    (first : Assembly) :
    (∃ stop, first.entities.mapM (a.linkEntity tables first.entities) = .error stop.error ∧
      a.laterPasses names tables first = .error stop) ∨
    (∃ (linked : List (Entity × List Diagnostic)) (result : Assembly),
      first.entities.mapM (a.linkEntity tables first.entities) = .ok linked ∧
      a.laterPasses names tables first = .ok result ∧
      result.entities = linked.map (·.1.closed) ∧
      result.failures = (missingNames names result.entities first.failures).foldl
        (fun all name =>
          putFailure name (TableError.unfinished name .pending).fault.message all) first.failures ∧
      result.diagnostics = first.diagnostics ++ linked.flatMap (·.2) ++
        (missingNames names result.entities first.failures).map missingNote) := by
  rcases a.foldlM_linkInto tables first.entities first.entities { first with entities := [] } with
    ⟨stop, hmap, hfold⟩ | ⟨linked, next, hmap, hfold, hnext, hfailures, hwarnings⟩
  · left
    refine ⟨stop, hmap, ?_⟩
    rw [laterPasses, hfold]
    rfl
  · right
    rw [List.nil_append] at hnext
    have hlinked : ∀ entity ∈ next.entities, entity.state = .associationsLinked := by
      intro entity hentity
      rw [hnext] at hentity
      obtain ⟨pair, hpair, rfl⟩ := List.mem_map.mp hentity
      obtain ⟨source, -, hsource⟩ := exists_of_mem_mapM hmap hpair
      obtain ⟨associations, -, hstate⟩ := linkEntity_ok hsource
      rw [hstate]
    have hclosed := mapM_finalize (fun change =>
      { error := .finalized change, log := next.log }) hlinked
    rw [laterPasses, hfold]
    dsimp only [bind, Except.bind]
    rw [hclosed]
    rw [← hfailures]
    refine ⟨linked, _, hmap, rfl, ?_, ?_, ?_⟩
    · rw [(foldl_excludeTable _ _).1, hnext, List.map_map]
      rfl
    · rw [(foldl_excludeTable _ _).1, (foldl_excludeTable _ _).2.1]
    · rw [(foldl_excludeTable _ _).1, (foldl_excludeTable _ _).2.2, hwarnings]

/-- An assembly stops where its passes stop, and else it consists of what they give. -/
theorem assemble_cases (a : Assembler) (names : List String) (tables : List Table)
    (failures : List (String × String)) :
    (∃ stop, a.passes (tablesByName tables) = .error stop.error ∧
      a.assemble names tables failures = .error stop) ∨
    (∃ (candidates : List (String × String)) (linked : List (Entity × List Diagnostic))
        (result : Assembly) (missing : List String),
      a.typeCandidates (tablesByName tables) = .ok candidates ∧
      a.passes (tablesByName tables) = .ok linked ∧
      a.assemble names tables failures = .ok result ∧
      result.entities = linked.map (·.1.closed) ∧
      result.diagnostics =
        (tablesByName tables).flatMap
            (a.extractionNotes (runTypeNames candidates) (tablesByName tables)) ++
          linked.flatMap (·.2) ++ missing.map missingNote) := by
  rw [assemble_eq]
  generalize tablesByName tables = ts
  cases hcandidates : a.typeCandidates ts with
  | error e =>
      left
      exact ⟨_, by rw [passes, hcandidates]; rfl, rfl⟩
  | ok candidates =>
      rw [passes_eq hcandidates, ← entities_firstPass candidates failures]
      rcases a.laterPasses_cases names ts (a.firstPass ts candidates failures) with
        hstop | ⟨linked, result, hlinked, hresult, hentities, -, hnotes⟩
      · exact Or.inl hstop
      · right
        rw [diagnostics_firstPass] at hnotes
        exact ⟨candidates, linked, result, _, rfl, hlinked, hresult, hentities, hnotes⟩

/-- A finished assembly in terms of its passes: the selected names that the first pass leaves out
are the ones that are missing. -/
theorem assemble_passes
    {names : List String} {failures : List (String × String)} {result : Assembly}
    (h : a.assemble names tables failures = .ok result) :
    ∃ (candidates : List (String × String)) (linked : List (Entity × List Diagnostic)),
      a.typeCandidates (tablesByName tables) = .ok candidates ∧
      a.passes (tablesByName tables) = .ok linked ∧
      result.entities = linked.map (·.1.closed) ∧
      result.failures =
        (missingNames names result.entities
            (a.firstPass (tablesByName tables) candidates failures).failures).foldl
          (fun all name =>
            putFailure name (TableError.unfinished name .pending).fault.message all)
          (a.firstPass (tablesByName tables) candidates failures).failures ∧
      result.diagnostics =
        (tablesByName tables).flatMap
            (a.extractionNotes (runTypeNames candidates) (tablesByName tables)) ++
          linked.flatMap (·.2) ++
          (missingNames names result.entities
            (a.firstPass (tablesByName tables) candidates failures).failures).map missingNote := by
  rw [assemble_eq] at h
  cases hcandidates : a.typeCandidates (tablesByName tables) with
  | error e =>
      rw [hcandidates] at h
      cases h
  | ok candidates =>
      rw [hcandidates] at h
      dsimp only at h
      rcases a.laterPasses_cases names (tablesByName tables)
          (a.firstPass (tablesByName tables) candidates failures) with
        ⟨stop, -, hstop⟩ | ⟨linked, result', hlinked, hresult, hentities, hfailures, hnotes⟩
      · rw [h] at hstop
        cases hstop
      · rw [h] at hresult
        obtain rfl := Except.ok.inj hresult
        rw [entities_firstPass, ← passes_eq hcandidates] at hlinked
        rw [diagnostics_firstPass] at hnotes
        exact ⟨candidates, linked, rfl, hlinked, hentities, hfailures, hnotes⟩

/-- An assembly whose passes are done is finished. -/
theorem exists_assemble_of_passes
    {linked : List (Entity × List Diagnostic)} (h : a.passes (tablesByName tables) = .ok linked)
    (names : List String) (failures : List (String × String)) :
    ∃ result, a.assemble names tables failures = .ok result := by
  rcases a.assemble_cases names tables failures with
    ⟨stop, hpasses, -⟩ | ⟨-, -, result, -, -, -, hresult, -, -⟩
  · rw [h] at hpasses
    cases hpasses
  · exact ⟨result, hresult⟩

end Whole

end Assembler
end Model
end TableCast
