import TableCast.Proofs.Model.LinkClosure
import TableCast.Proofs.Name.BatchNames

/-!
# Excluded tables

A table leaves an assembly in one of two ways: it becomes an entity, or it is excluded for an
error.  The exclusions of an assembly are one list; the failures that it adds to those of the
reading and the error diagnostics that it notes both come from that list.

**Results.**
* `failures_firstPass`: the failures after the first pass.
* `errors_extractionNotes`: the only error noted about a table is that of its exclusion.
* `exclusions_of_assemble`: failures and errors of an assembly, from one list of exclusions.
* `mem_excluded_iff_of_assemble`: which tables fail when every selected one was asked for.
* `assembly_accounts_for_every_table`: an assembly finishes, and every table ends as an entity
  or as a failure.
-/

namespace TableCast
namespace Model

open Name Schema Fallible Reordering

/-- Whether a diagnostic tells an error. -/
def Diagnostic.isError (d : Diagnostic) : Bool := d.severity == .error

/-- A table that is excluded, and the error that excludes it. -/
structure Exclusion where
  table : String
  error : TableError

namespace Exclusion

def note (x : Exclusion) : Diagnostic := Diagnostic.ofFault (some x.table) x.error.fault none

def entry (x : Exclusion) : String × String := (x.table, x.error.fault.message)

/-- The exclusion of a selected table that was never read. -/
def ofMissing (name : String) : Exclusion :=
  { table := name, error := .unfinished name .pending }

theorem map_fst_entry (xs : List Exclusion) :
    (xs.map entry).map (·.1) = xs.map (·.table) := by
  rw [List.map_map]
  rfl

end Exclusion

namespace Assembly

/-- The names of the tables that have an entity. -/
def assembled (r : Assembly) : List String := r.entities.map (·.name)

/-- The names of the tables that have none. -/
def excluded (r : Assembly) : List String := r.failures.map (·.1)

/-- The errors that are noted about a table. -/
def errorsAbout (r : Assembly) (name : String) : List Diagnostic :=
  r.diagnostics.filter fun d => d.isError && d.table == some name

end Assembly

section Failures

variable {failures : List (String × String)} {name reason : String}

theorem putFailure_of_not_mem (h : name ∉ failures.map (·.1)) :
    putFailure name reason failures = failures ++ [(name, reason)] := by
  induction failures with
  | nil => rfl
  | cons entry rest ih =>
      obtain ⟨n, r⟩ := entry
      have hne : n ≠ name := fun heq => h (by simp [heq])
      have hrest : name ∉ rest.map (·.1) := fun hmem => h (List.mem_cons_of_mem _ hmem)
      have hput : putFailure name reason ((n, r) :: rest) =
          (n, r) :: putFailure name reason rest := by
        simp [putFailure, Scope.setName, hne]
      rw [hput, ih hrest]
      rfl

/-- Exclusions of new and different tables go to the end of the failures. -/
theorem foldl_putFailure_entries
    (failures : List (String × String)) (xs : List Exclusion)
    (hnodup : (xs.map (·.table)).Nodup)
    (hnew : ∀ x ∈ xs, x.table ∉ failures.map (·.1)) :
    xs.foldl (fun all x => putFailure x.table x.error.fault.message all) failures =
      failures ++ xs.map Exclusion.entry := by
  induction xs generalizing failures with
  | nil => simp
  | cons x xs ih =>
      obtain ⟨hx, hxs⟩ := List.nodup_cons.mp hnodup
      obtain ⟨hfirst, hrest⟩ := List.forall_mem_cons.mp hnew
      have hnext : ∀ y ∈ xs, y.table ∉ (failures ++ [x.entry]).map (·.1) := by
        intro y hy hmem
        rw [List.map_append, List.mem_append] at hmem
        rcases hmem with hmem | hmem
        · exact hrest y hy hmem
        · have heq : y.table = x.table := List.mem_singleton.mp hmem
          exact hx (List.mem_map.mpr ⟨y, hy, heq⟩)
      rw [List.foldl_cons, putFailure_of_not_mem hfirst]
      show xs.foldl _ (failures ++ [x.entry]) = _
      rw [ih _ hxs hnext, List.append_assoc]
      rfl

/-- The reason of a table is the last one that was put for it. -/
theorem lookup?_foldl_putFailure
    {α : Type} (table reason : α → String) (xs : List α) (failures : List (String × String))
    (name : String) :
    lookup? (xs.foldl (fun all x => putFailure (table x) (reason x) all) failures) name =
      (xs.filter (table · == name)).foldl (fun _ x => some (reason x)) (lookup? failures name) := by
  induction xs generalizing failures with
  | nil => rfl
  | cons x xs ih =>
      rw [List.foldl_cons, ih, putFailure, Scope.lookup?_setName, List.filter_cons]
      by_cases hx : table x = name
      · rw [if_pos hx, if_pos (beq_iff_eq.mpr hx), List.foldl_cons]
      · rw [if_neg hx, if_neg fun heq => hx (beq_iff_eq.mp heq)]

/-- The failures of the reading, of two for one table the later one. -/
def readingFailures (failures : List (String × String)) : List (String × String) :=
  failures.foldl (fun all (name, reason) => putFailure name reason all) []

theorem keys_readingFailures (failures : List (String × String)) :
    (∀ name, name ∈ (readingFailures failures).map (·.1) ↔ name ∈ failures.map (·.1)) ∧
    ((readingFailures failures).map (·.1)).Nodup := by
  -- The induction takes the last failure off, which is the one that is put last.
  induction failures using List.reverseRecOn with
  | nil => simp [readingFailures]
  | append_singleton failures entry ih =>
      obtain ⟨hmem, hnodup⟩ := ih
      have hput : readingFailures (failures ++ [entry]) =
          Scope.setName entry.1 entry.2 (readingFailures failures) := by
        simp [readingFailures, putFailure]
      rw [hput]
      refine ⟨fun name => ?_, Scope.nodup_keys_setName hnodup⟩
      show name ∈ keys (Scope.setName entry.1 entry.2 (readingFailures failures)) ↔ _
      have hkeys : ∀ n, n ∈ keys (readingFailures failures) ↔ n ∈ failures.map (·.1) := hmem
      rw [Scope.keys_setName]
      split_ifs with hold
      · rw [hkeys, List.map_append, List.mem_append]
        rw [hkeys] at hold
        constructor
        · exact Or.inl
        · rintro (hname | hname)
          · exact hname
          · rwa [List.mem_singleton.mp hname]
      · simp [hkeys]

end Failures

namespace Assembler

section FirstPass

variable {a : Assembler} {typeNames : List (String × String)} {tables : List Table}
variable {table : Table} {x : Exclusion}

/-- The exclusion of a table that does not get its columns. -/
def exclusionOf (a : Assembler) (typeNames : List (String × String)) (tables : List Table)
    (table : Table) : Option Exclusion :=
  match (a.extract typeNames tables table).2 with
  | .error e => some { table := table.name, error := e }
  | .ok _ => none

def exclusions (a : Assembler) (typeNames : List (String × String)) (tables : List Table) :
    List Exclusion :=
  tables.filterMap (a.exclusionOf typeNames tables)

theorem table_of_exclusionOf (h : a.exclusionOf typeNames tables table = some x) :
    x.table = table.name ∧ ∃ e, (a.extract typeNames tables table).2 = .error e := by
  rw [exclusionOf] at h
  cases hextract : (a.extract typeNames tables table).2 with
  | error e =>
      rw [hextract] at h
      rw [← Option.some.inj h]
      exact ⟨rfl, e, rfl⟩
  | ok entity =>
      rw [hextract] at h
      cases h

theorem mem_exclusions {name : String} :
    name ∈ (a.exclusions typeNames tables).map (·.table) ↔
      ∃ table ∈ tables, table.name = name ∧
        ∃ e, (a.extract typeNames tables table).2 = .error e := by
  constructor
  · intro hname
    obtain ⟨x, hx, rfl⟩ := List.mem_map.mp hname
    obtain ⟨table, htable, hexclusion⟩ := List.mem_filterMap.mp hx
    obtain ⟨hxname, e, herror⟩ := table_of_exclusionOf hexclusion
    exact ⟨table, htable, hxname.symm, e, herror⟩
  · rintro ⟨table, htable, rfl, e, herror⟩
    refine List.mem_map.mpr ⟨{ table := table.name, error := e }, ?_, rfl⟩
    exact List.mem_filterMap.mpr ⟨table, htable, by rw [exclusionOf, herror]⟩

theorem failures_extractInto (assembly : Assembly) (table : Table) :
    (a.extractInto typeNames tables assembly table).failures =
      (a.exclusionOf typeNames tables table).toList.foldl
        (fun all x => putFailure x.table x.error.fault.message all) assembly.failures := by
  unfold extractInto exclusionOf
  rcases a.extract typeNames tables table with ⟨warnings, e | entity⟩
  · rfl
  · rfl

theorem failures_foldl_extractInto (rest : List Table) (assembly : Assembly) :
    (rest.foldl (a.extractInto typeNames tables) assembly).failures =
      (rest.filterMap (a.exclusionOf typeNames tables)).foldl
        (fun all x => putFailure x.table x.error.fault.message all) assembly.failures := by
  induction rest generalizing assembly with
  | nil => rfl
  | cons table rest ih =>
      rw [List.foldl_cons, ih, failures_extractInto, List.filterMap_cons]
      cases a.exclusionOf typeNames tables table with
      | none => rfl
      | some x => rfl

theorem map_table_exclusions_sublist (rest : List Table) :
    ((rest.filterMap (a.exclusionOf typeNames tables)).map (·.table)).Sublist
      (rest.map (·.name)) := by
  induction rest with
  | nil => exact List.Sublist.refl _
  | cons table rest ih =>
      rw [List.filterMap_cons, List.map_cons]
      cases hx : a.exclusionOf typeNames tables table with
      | none => exact ih.cons _
      | some x =>
          rw [← (table_of_exclusionOf hx).1]
          exact ih.cons_cons _

/-- The only error noted about a table in the first pass is that of its exclusion. -/
theorem errors_extractionNotes (table : Table) :
    (a.extractionNotes typeNames tables table).filter Diagnostic.isError =
      (a.exclusionOf typeNames tables table).toList.map Exclusion.note := by
  have hwarnings : (a.extract typeNames tables table).1.filter Diagnostic.isError = [] := by
    rw [List.filter_eq_nil_iff]
    intro d hd
    obtain ⟨c, -, rfl⟩ := warnings_extract hd
    exact Bool.false_ne_true
  rw [extractionNotes, List.filter_append, hwarnings, exclusionOf]
  cases (a.extract typeNames tables table).2 with
  | error e => rfl
  | ok entity => rfl

theorem errors_flatMap_extractionNotes (rest : List Table) :
    (rest.flatMap (a.extractionNotes typeNames tables)).filter Diagnostic.isError =
      (rest.filterMap (a.exclusionOf typeNames tables)).map Exclusion.note := by
  induction rest with
  | nil => rfl
  | cons table rest ih =>
      rw [List.flatMap_cons, List.filter_append, errors_extractionNotes, ih, List.filterMap_cons]
      cases a.exclusionOf typeNames tables table with
      | none => rfl
      | some x => rfl

/-- A table of the run becomes an entity or is excluded. -/
theorem mem_names_iff_extracted_or_excluded (name : String) :
    name ∈ tables.map (·.name) ↔
      name ∈ (a.extracted typeNames tables).map (·.name) ∨
      name ∈ (a.exclusions typeNames tables).map (·.table) := by
  constructor
  · intro hname
    obtain ⟨table, htable, rfl⟩ := List.mem_map.mp hname
    cases hextract : (a.extract typeNames tables table).2 with
    | ok entity =>
        left
        exact List.mem_map.mpr
          ⟨entity, mem_extracted.mpr ⟨table, htable, hextract⟩, name_of_extract hextract⟩
    | error e =>
        right
        exact mem_exclusions.mpr ⟨table, htable, rfl, e, hextract⟩
  · rintro (hname | hname)
    · exact (map_name_extracted_sublist typeNames tables).subset hname
    · exact (map_table_exclusions_sublist tables).subset hname

/-- Among tables with distinct names, none is extracted and excluded as well. -/
theorem not_extracted_of_excluded
    (hnodup : (tables.map (·.name)).Nodup)
    (hx : x ∈ a.exclusions typeNames tables) :
    x.table ∉ (a.extracted typeNames tables).map (·.name) := by
  intro hmem
  obtain ⟨entity, hentity, hname⟩ := List.mem_map.mp hmem
  obtain ⟨other, hother, hextract⟩ := mem_extracted.mp hentity
  obtain ⟨table, htable, hexclusion⟩ := List.mem_filterMap.mp hx
  obtain ⟨hxname, e, herror⟩ := table_of_exclusionOf hexclusion
  have hsame : other = table := by
    refine List.inj_on_of_nodup_map hnodup hother htable ?_
    rw [← name_of_extract hextract, hname, hxname]
  rw [hsame, herror] at hextract
  cases hextract

theorem failures_firstPass (candidates failures : List (String × String))
    (hnodup : (tables.map (·.name)).Nodup)
    (hdisjoint : ∀ table ∈ tables, table.name ∉ failures.map (·.1)) :
    (a.firstPass tables candidates failures).failures =
      readingFailures failures ++
        (a.exclusions (runTypeNames candidates) tables).map Exclusion.entry := by
  rw [firstPass, failures_foldl_extractInto]
  refine foldl_putFailure_entries _ _ (hnodup.sublist (map_table_exclusions_sublist tables)) ?_
  intro x hx hmem
  obtain ⟨table, htable, hexclusion⟩ := List.mem_filterMap.mp hx
  rw [(table_of_exclusionOf hexclusion).1] at hmem
  exact hdisjoint table htable (((keys_readingFailures failures).1 _).mp hmem)

end FirstPass

section Run

variable {a : Assembler} {names : List String} {tables : List Table}
variable {failures : List (String × String)} {before result : Assembly} {xs : List Exclusion}

/-- What the exclusions of a run tell about its assembly. -/
structure Excludes (names : List String) (tables : List Table) (failures : List (String × String))
    (result : Assembly) (xs : List Exclusion) : Prop where
  /-- A table is excluded once. -/
  distinct : (xs.map (·.table)).Nodup
  /-- The failures of the reading are kept, and each exclusion is one more failure. -/
  failed : result.failures = readingFailures failures ++ xs.map Exclusion.entry
  /-- Each exclusion is noted as an error, and nothing else is. -/
  errors : result.diagnostics.filter Diagnostic.isError = xs.map Exclusion.note
  /-- What could not be read is not excluded a second time. -/
  new : ∀ x ∈ xs, x.table ∉ failures.map (·.1)
  /-- What is excluded has no entity. -/
  apart : ∀ x ∈ xs, x.table ∉ result.assembled
  /-- What has an entity was read. -/
  read : result.assembled ⊆ tables.map (·.name)
  /-- Every name has an entity, could not be read or is excluded. -/
  covers : ∀ name, (name ∈ names ∨ name ∈ tables.map (·.name) ∨ name ∈ failures.map (·.1)) ↔
    name ∈ result.assembled ∨ name ∈ failures.map (·.1) ∨ name ∈ xs.map (·.table)

theorem mem_missingNames {entities : List Entity} {name : String} :
    name ∈ missingNames names entities failures ↔
      name ∈ names ∧ name ∉ entities.map (·.name) ∧ name ∉ failures.map (·.1) := by
  have hentities : entities.any (·.name == name) = true ↔ name ∈ entities.map (·.name) := by
    simp
  have hfailures : failures.any (·.1 == name) = true ↔ name ∈ failures.map (·.1) := by
    simp
  rw [missingNames, List.mem_filter, Scope.mem_sortedDistinct, ← hentities, ← hfailures]
  simp only [Bool.and_eq_true, Bool.not_eq_true', Bool.not_eq_true]

/-- A finished assembly in terms of its first pass: the selected names that the first pass leaves
out are the ones that are missing. -/
theorem assemble_firstPass
    (h : a.assemble names tables failures = .ok result) :
    ∃ (candidates : List (String × String)) (linked : List (Entity × List Diagnostic)),
      a.typeCandidates (tablesByName tables) = .ok candidates ∧
      List.Forall₂
        (fun source pair => ∃ table,
          LinkedFrom a (runTypeNames candidates) (tablesByName tables) table source pair)
        (a.extracted (runTypeNames candidates) (tablesByName tables)) linked ∧
      result.entities = linked.map (·.1.closed) ∧
      result.failures =
        (missingNames names result.entities
            (a.firstPass (tablesByName tables) candidates failures).failures).foldl
          (fun all name =>
            putFailure name (TableError.unfinished name .pending).fault.message all)
          (a.firstPass (tablesByName tables) candidates failures).failures ∧
      result.diagnostics =
        (tablesByName tables).flatMap
            (a.extractionNotes (runTypeNames candidates) (tablesByName tables)) ++
          linked.flatMap (·.2) ++
          (missingNames names result.entities
            (a.firstPass (tablesByName tables) candidates failures).failures).map missingNote := by
  obtain ⟨candidates, linked, hcandidates, hpasses, hresult⟩ := assemble_passes h
  rw [passes_eq hcandidates] at hpasses
  exact ⟨candidates, linked, hcandidates, linkedFrom_of_mapM hpasses, hresult⟩

/-- The exclusions of the first pass, once the extracted entities are linked. -/
theorem excludes_linked
    {candidates : List (String × String)} {linked : List (Entity × List Diagnostic)}
    (hlinked : List.Forall₂
      (fun source pair => ∃ table,
        LinkedFrom a (runTypeNames candidates) (tablesByName tables) table source pair)
      (a.extracted (runTypeNames candidates) (tablesByName tables)) linked)
    (hdisjoint : ∀ table ∈ tables, table.name ∉ failures.map (·.1)) :
    Excludes [] tables failures
      { entities := linked.map (·.1.closed)
        failures := (a.firstPass (tablesByName tables) candidates failures).failures
        diagnostics := (tablesByName tables).flatMap
            (a.extractionNotes (runTypeNames candidates) (tablesByName tables)) ++
          linked.flatMap (·.2) }
      (a.exclusions (runTypeNames candidates) (tablesByName tables)) := by
  have hnodup := nodup_map_name_tablesByName tables
  have hread : ∀ name, name ∈ (tablesByName tables).map (·.name) ↔ name ∈ tables.map (·.name) := by
    intro name
    rw [map_name_tablesByName, Scope.mem_sortedDistinct]
  have hapart : ∀ table ∈ tablesByName tables, table.name ∉ failures.map (·.1) := by
    intro table htable
    exact hdisjoint table (mem_of_mem_tablesByName htable)
  have hassembled : (linked.map (·.1.closed)).map (·.name) =
      (a.extracted (runTypeNames candidates) (tablesByName tables)).map (·.name) :=
    map_name_eq_of_map_ref_eq (map_ref_linked hlinked)
  constructor
  case distinct => exact hnodup.sublist (map_table_exclusions_sublist _)
  case failed => exact failures_firstPass candidates failures hnodup hapart
  case errors =>
    have hlinks : (linked.flatMap (·.2)).filter Diagnostic.isError = [] := by
      rw [List.filter_eq_nil_iff]
      intro d hd
      rw [Diagnostic.isError, (warning_of_linked hlinked hd).1]
      exact Bool.false_ne_true
    rw [List.filter_append, errors_flatMap_extractionNotes, hlinks, List.append_nil]
    rfl
  case new =>
    intro x hx
    obtain ⟨table, htable, hexclusion⟩ := List.mem_filterMap.mp hx
    rw [(table_of_exclusionOf hexclusion).1]
    exact hapart table htable
  case apart =>
    intro x hx
    rw [Assembly.assembled, hassembled]
    exact not_extracted_of_excluded hnodup hx
  case read =>
    intro name hname
    rw [Assembly.assembled, hassembled] at hname
    exact (hread name).mp ((map_name_extracted_sublist _ _).subset hname)
  case covers =>
    intro name
    rw [Assembly.assembled, hassembled, ← hread, mem_names_iff_extracted_or_excluded]
    have hnone : name ∉ ([] : List String) := List.not_mem_nil
    tauto

/-- Selected names that have neither an entity nor a failure are excluded as well. -/
theorem Excludes.addMissing
    (h : Excludes [] tables failures before xs)
    (hentities : result.entities = before.entities)
    (hfailures : result.failures =
      (missingNames names before.entities before.failures).foldl
        (fun all name =>
          putFailure name (TableError.unfinished name .pending).fault.message all)
        before.failures)
    (hnotes : result.diagnostics = before.diagnostics ++
      (missingNames names before.entities before.failures).map missingNote) :
    Excludes names tables failures result
      (xs ++ (missingNames names before.entities before.failures).map Exclusion.ofMissing) := by
  have hassembled : result.assembled = before.assembled := congrArg (List.map _) hentities
  have hfailed : ∀ name, name ∈ before.failures.map (·.1) ↔
      name ∈ failures.map (·.1) ∨ name ∈ xs.map (·.table) := by
    intro name
    rw [h.failed, List.map_append, List.mem_append, (keys_readingFailures failures).1,
      Exclusion.map_fst_entry]
  have hmem : ∀ name, name ∈ missingNames names before.entities before.failures ↔
      name ∈ names ∧ name ∉ before.assembled ∧ name ∉ before.failures.map (·.1) :=
    fun name => mem_missingNames
  have hnodup : (missingNames names before.entities before.failures).Nodup :=
    (Scope.nodup_sortedDistinct names).filter _
  generalize missingNames names before.entities before.failures = missing
    at hfailures hnotes hmem hnodup
  have htables : (missing.map Exclusion.ofMissing).map (·.table) = missing := by
    rw [List.map_map]
    exact List.map_id missing
  constructor
  case distinct =>
    rw [List.map_append, htables, List.nodup_append]
    refine ⟨h.distinct, hnodup, fun name hname other hother heq => ?_⟩
    exact ((hmem other).mp hother).2.2 ((hfailed other).mpr (.inr (heq ▸ hname)))
  case failed =>
    have hput := foldl_putFailure_entries before.failures (missing.map Exclusion.ofMissing)
      (htables.symm ▸ hnodup) (by
        intro x hx
        obtain ⟨name, hname, rfl⟩ := List.mem_map.mp hx
        exact ((hmem name).mp hname).2.2)
    rw [List.foldl_map] at hput
    rw [hfailures, List.map_append, ← List.append_assoc, ← h.failed]
    exact hput
  case errors =>
    have hnoted : (missing.map Exclusion.ofMissing).map Exclusion.note =
        missing.map missingNote := by
      rw [List.map_map]
      rfl
    have hall : (missing.map missingNote).filter Diagnostic.isError = missing.map missingNote := by
      rw [List.filter_eq_self]
      intro d hd
      obtain ⟨name, -, rfl⟩ := List.mem_map.mp hd
      rfl
    rw [hnotes, List.filter_append, h.errors, hall, List.map_append, hnoted]
  case new =>
    intro x hx hread
    rcases List.mem_append.mp hx with hx | hx
    · exact h.new x hx hread
    · obtain ⟨name, hname, rfl⟩ := List.mem_map.mp hx
      exact ((hmem name).mp hname).2.2 ((hfailed name).mpr (.inl hread))
  case apart =>
    intro x hx
    rw [hassembled]
    rcases List.mem_append.mp hx with hx | hx
    · exact h.apart x hx
    · obtain ⟨name, hname, rfl⟩ := List.mem_map.mp hx
      exact ((hmem name).mp hname).2.1
  case read => exact hassembled ▸ h.read
  case covers =>
    intro name
    have hcovers := h.covers name
    have hnone : name ∉ ([] : List String) := List.not_mem_nil
    rw [List.map_append, htables, List.mem_append, hmem, hfailed, hassembled]
    tauto

/-- The failures and the errors of an assembly come from one list of exclusions: those of the
first pass, and then the selected tables that were never read. -/
theorem exclusions_of_assemble
    (h : a.assemble names tables failures = .ok result)
    (hdisjoint : ∀ table ∈ tables, table.name ∉ failures.map (·.1)) :
    ∃ (candidates : List (String × String)) (missing : List String),
      a.typeCandidates (tablesByName tables) = .ok candidates ∧
      (∀ name ∈ missing,
        name ∈ names ∧ name ∉ tables.map (·.name) ∧ name ∉ failures.map (·.1)) ∧
      Excludes names tables failures result
        (a.exclusions (runTypeNames candidates) (tablesByName tables) ++
          missing.map Exclusion.ofMissing) := by
  obtain ⟨candidates, linked, hcandidates, hlinked, hentities, hfailures, hnotes⟩ :=
    assemble_firstPass h
  rw [hentities] at hfailures hnotes
  have hfirst := excludes_linked hlinked hdisjoint
  refine ⟨candidates, _, hcandidates, fun name hname => ?_,
    hfirst.addMissing hentities hfailures hnotes⟩
  obtain ⟨hselected, hnoEntity, hnoFailure⟩ := mem_missingNames.mp hname
  -- What the first pass covers has an entity or a failure after it.
  have hcovered : ¬(name ∈ tables.map (·.name) ∨ name ∈ failures.map (·.1)) := by
    intro hread
    rcases (hfirst.covers name).mp (.inr hread) with hdone | hdone
    · exact hnoEntity hdone
    · refine hnoFailure ?_
      rw [hfirst.failed, List.map_append, List.mem_append, (keys_readingFailures failures).1,
        Exclusion.map_fst_entry]
      exact hdone
  exact ⟨hselected, fun hread => hcovered (.inl hread), fun hread => hcovered (.inr hread)⟩

namespace Excludes

/-- The errors about a table are the notes of its exclusions. -/
theorem errorsAbout (h : Excludes names tables failures result xs) (name : String) :
    result.errorsAbout name = (xs.filter (·.table == name)).map Exclusion.note := by
  have hsplit : result.errorsAbout name =
      (result.diagnostics.filter Diagnostic.isError).filter (·.table == some name) := by
    rw [Assembly.errorsAbout, List.filter_filter]
    simp only [Bool.and_comm]
  rw [hsplit, h.errors, List.filter_map]
  rfl

theorem errorsAbout_of_assembled (h : Excludes names tables failures result xs) {name : String}
    (hname : name ∈ result.assembled) : result.errorsAbout name = [] := by
  rw [h.errorsAbout, List.map_eq_nil_iff, List.filter_eq_nil_iff]
  intro x hx htable
  exact h.apart x hx (beq_iff_eq.mp htable ▸ hname)

theorem errorsAbout_of_mem (h : Excludes names tables failures result xs) {x : Exclusion}
    (hx : x ∈ xs) : result.errorsAbout x.table = [x.note] := by
  rw [h.errorsAbout, filter_eq_singleton hx h.distinct]
  rfl

theorem excluded_eq (h : Excludes names tables failures result xs) :
    result.excluded = (readingFailures failures).map (·.1) ++ xs.map (·.table) := by
  rw [Assembly.excluded, h.failed, List.map_append, Exclusion.map_fst_entry]

theorem mem_excluded (h : Excludes names tables failures result xs) {name : String} :
    name ∈ result.excluded ↔ name ∈ failures.map (·.1) ∨ name ∈ xs.map (·.table) := by
  rw [h.excluded_eq, List.mem_append, (keys_readingFailures failures).1]

theorem nodup_excluded (h : Excludes names tables failures result xs) : result.excluded.Nodup := by
  rw [h.excluded_eq, List.nodup_append]
  refine ⟨(keys_readingFailures failures).2, h.distinct, fun name hname other hother heq => ?_⟩
  obtain ⟨x, hx, rfl⟩ := List.mem_map.mp hother
  exact h.new x hx (heq ▸ ((keys_readingFailures failures).1 name).mp hname)

/-- A failure that the reading did not bring is that of an exclusion. -/
theorem exists_of_failure (h : Excludes names tables failures result xs) {name reason : String}
    (hmem : (name, reason) ∈ result.failures) (hread : name ∉ failures.map (·.1)) :
    ∃ x ∈ xs, x.table = name ∧ x.note.message = reason := by
  rw [h.failed, List.mem_append] at hmem
  rcases hmem with hmem | hmem
  · have hold : name ∈ (readingFailures failures).map (·.1) := List.mem_map.mpr ⟨_, hmem, rfl⟩
    exact absurd (((keys_readingFailures failures).1 name).mp hold) hread
  · obtain ⟨x, hx, hentry⟩ := List.mem_map.mp hmem
    exact ⟨x, hx, congrArg Prod.fst hentry, congrArg Prod.snd hentry⟩

end Excludes

/-- The assembly of some tables refuses one of them: the table does not get its columns. -/
def Refuses (a : Assembler) (tables : List Table) (table : Table) : Prop :=
  ∃ candidates e, a.typeCandidates (tablesByName tables) = .ok candidates ∧
    (a.extract (runTypeNames candidates) (tablesByName tables) table).2 = .error e

/-- When every selected table was read or could not be read, the failures are those of the
reading and those of the tables that are refused. -/
theorem mem_excluded_iff_of_assemble
    (h : a.assemble names tables failures = .ok result)
    (hdisjoint : ∀ table ∈ tables, table.name ∉ failures.map (·.1))
    (hread : ∀ name ∈ names, name ∈ tables.map (·.name) ∨ name ∈ failures.map (·.1))
    {name : String} :
    name ∈ result.excluded ↔ name ∈ failures.map (·.1) ∨
      ∃ table ∈ tablesByName tables, table.name = name ∧ a.Refuses tables table := by
  obtain ⟨candidates, missing, hcandidates, hmissing, hxs⟩ := exclusions_of_assemble h hdisjoint
  have hnone : missing = [] := by
    rw [List.eq_nil_iff_forall_not_mem]
    intro name hname
    obtain ⟨hselected, hnoTable, hnoFailure⟩ := hmissing name hname
    exact (hread name hselected).elim hnoTable hnoFailure
  rw [hxs.mem_excluded, hnone, List.map_nil, List.append_nil, mem_exclusions]
  refine or_congr_right (exists_congr fun table => and_congr_right fun _ => and_congr_right fun _ => ?_)
  constructor
  · rintro ⟨e, herror⟩
    exact ⟨candidates, e, hcandidates, herror⟩
  · rintro ⟨candidates', e, hcandidates', herror⟩
    obtain rfl := Except.ok.inj (hcandidates.symm.trans hcandidates')
    exact ⟨e, herror⟩

/-- Every name of a run is accounted for in its assembly. -/
structure Accounts (names : List String) (tables : List Table) (failures : List (String × String))
    (result : Assembly) : Prop where
  assembledOnce : result.assembled.Nodup
  excludedOnce : result.excluded.Nodup
  /-- Selected, read or not readable: every name has an entity or a failure. -/
  everyName : ∀ name, (name ∈ names ∨ name ∈ tables.map (·.name) ∨ name ∈ failures.map (·.1)) ↔
    name ∈ result.assembled ∨ name ∈ result.excluded
  notBoth : ∀ name ∈ result.assembled, name ∉ result.excluded
  /-- Entities are finished, and no error is noted about them. -/
  finished : ∀ e ∈ result.entities, e.isFinalized = true ∧ result.errorsAbout e.name = []
  /-- One error is noted about a table that the assembly excludes, with the reason. -/
  noted : ∀ name reason, (name, reason) ∈ result.failures → name ∉ failures.map (·.1) →
    ∃ d, result.errorsAbout name = [d] ∧ d.message = reason

theorem accounts_of_assemble
    (h : a.assemble names tables failures = .ok result)
    (hdisjoint : ∀ table ∈ tables, table.name ∉ failures.map (·.1)) :
    Accounts names tables failures result := by
  obtain ⟨candidates, missing, -, -, hxs⟩ := exclusions_of_assemble h hdisjoint
  refine ⟨nodup_names_entities h, hxs.nodup_excluded, ?_, ?_, ?_, ?_⟩
  · intro name
    rw [hxs.mem_excluded]
    exact hxs.covers name
  · intro name hname hexcluded
    rcases hxs.mem_excluded.mp hexcluded with hread | hexcluded
    · obtain ⟨table, htable, rfl⟩ := List.mem_map.mp (hxs.read hname)
      exact hdisjoint table htable hread
    · obtain ⟨x, hx, rfl⟩ := List.mem_map.mp hexcluded
      exact hxs.apart x hx hname
  · intro e he
    have hname : e.name ∈ result.assembled := List.mem_map_of_mem he
    obtain ⟨-, linked, -, -, hentities, -⟩ := assemble_firstPass h
    obtain ⟨pair, -, rfl⟩ := List.mem_map.mp (hentities ▸ he)
    exact ⟨rfl, hxs.errorsAbout_of_assembled hname⟩
  · intro name reason hmem hread
    obtain ⟨x, hx, rfl, hreason⟩ := hxs.exists_of_failure hmem hread
    exact ⟨x.note, hxs.errorsAbout_of_mem hx, hreason⟩

/-- An assembly finishes and accounts for every table.  Linking, which no table may fail, cannot
refuse a table whose foreign keys are valid, whatever entities the other tables have got. -/
theorem assembly_accounts_for_every_table
    (hsingular : a.normalizer.singularize = false)
    (hsources : ∀ table ∈ tables, ∀ key ∈ table.foreignKeys, key.sourceColumns ≠ [])
    (hdisjoint : ∀ table ∈ tables, table.name ∉ failures.map (·.1)) :
    (∀ table ∈ tables, validateKeys table (tablesByName tables) = .ok () →
      ∀ owner entities, owner.name = table.name →
        ∃ linked, link a.normalizer owner table entities (tablesByName tables) = .ok linked) ∧
    ∃ result, a.assemble names tables failures = .ok result ∧
      Accounts names tables failures result := by
  have hnames := typeName_total hsingular
  constructor
  · intro table htable hvalid owner entities howner
    exact link_total howner hnames (hsources table htable) hvalid
  · obtain ⟨result, h⟩ := assemble_total hnames hsources names failures
    exact ⟨result, h, accounts_of_assemble h hdisjoint⟩

/-- A table whose foreign key has more columns than it references. -/
def torn : Table :=
  { name := "torn"
    columns := [{ name := "id", nativeType := "int" }]
    foreignKeys := [
      { name := "seat"
        sourceColumns := ["id", "row"]
        targetTable := "staff"
        targetColumns := ["id"] }] }

/-- One table that is assembled, one with an invalid foreign key, one that was selected and never
read, and one that could not be read. -/
theorem accounts_of_torn :
    ∃ result,
      withoutEnums.assemble ["staff", "ghost"] [staff, torn] [("lost", "gone")] = .ok result ∧
      ("ghost" ∈ result.assembled ∨ "ghost" ∈ result.excluded) ∧
      Accounts ["staff", "ghost"] [staff, torn] [("lost", "gone")] result := by
  have hsources : ∀ table ∈ [staff, torn], ∀ key ∈ table.foreignKeys, key.sourceColumns ≠ [] := by
    decide
  have hdisjoint : ∀ table ∈ [staff, torn], table.name ∉ [("lost", "gone")].map (·.1) := by
    decide
  have hrun := @assembly_accounts_for_every_table withoutEnums ["staff", "ghost"] _ _ rfl hsources
    hdisjoint
  obtain ⟨-, result, h, haccounts⟩ := hrun
  exact ⟨result, h, (haccounts.everyName "ghost").mp (.inl (by decide)), haccounts⟩

end Run

end Assembler
end Model
end TableCast
