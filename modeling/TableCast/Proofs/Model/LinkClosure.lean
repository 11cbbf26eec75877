import TableCast.Proofs.Model.Completion
import TableCast.Proofs.Model.Notes

/-!
# Links between the entities of an assembly

An association is linked while the entities of the run are still being worked on.  The linking
and the closing of an entity change neither its name nor its type name, so what an association
found as its target is what the finished assembly keeps under that name.

**Results.**
* `target_of_association`: the target of an association is the entity that the assembly keeps
  under the name of the referenced table.
* `unresolved_notes`: the warnings about unresolved associations, over the whole assembly.
* `links_closed`: an association is unresolved exactly when its target is not in the assembly,
  and the warnings of a table are about its unresolved associations.
-/

namespace TableCast
namespace Model

open Name Schema Fallible Reordering

section Closure

variable {a : Assembler} {names : List String} {tables : List Table}
variable {failures : List (String × String)} {result : Assembly} {e : Entity} {l : Association}

/-- A search by name finds an entity by its reference. -/
theorem map_ref_find? (entities : List Entity) (name : String) :
    (entities.find? (·.name == name)).map Entity.ref =
      (entities.map Entity.ref).find? (·.table == name) := by
  rw [List.find?_map]
  rfl

theorem map_name_eq_of_map_ref_eq
    {es ds : List Entity} (h : es.map Entity.ref = ds.map Entity.ref) :
    es.map (·.name) = ds.map (·.name) := by
  have htables := congrArg (List.map EntityRef.table) h
  rwa [List.map_map, List.map_map] at htables

/-- An assembly keeps one entity for each name. -/
theorem nodup_names_entities (h : a.assemble names tables failures = .ok result) :
    (result.entities.map (·.name)).Nodup := by
  obtain ⟨candidates, linked, -, -, hlinked, hentities, -⟩ := Assembler.assemble_ok h
  rw [hentities, map_name_eq_of_map_ref_eq (Assembler.map_ref_linked hlinked)]
  exact Assembler.nodup_map_name_extracted _ tables

/-- An assembly keeps each of its entities under its name. -/
theorem entity?_of_mem
    (h : a.assemble names tables failures = .ok result) (he : e ∈ result.entities) :
    result.entity? e.name = some e := by
  cases hfind : result.entity? e.name with
  | none =>
      have hnone := List.find?_eq_none.mp hfind e he
      simp at hnone
  | some other =>
      have hother : other ∈ result.entities := List.mem_of_find?_eq_some hfind
      have hname : other.name = e.name := by simpa using List.find?_some hfind
      rw [List.inj_on_of_nodup_map (nodup_names_entities h) hother he hname]

/-- The target of an association is the entity that the assembly keeps under the name of the
referenced table, and an association without a target is unresolved. -/
theorem target_of_association
    (h : a.assemble names tables failures = .ok result)
    (he : e ∈ result.entities) (hl : l ∈ e.associations) :
    l.target = (result.entity? l.targetTable).map Entity.ref ∧ l.unresolved = l.target.isNone := by
  obtain ⟨candidates, linked, -, -, hlinked, hentities, -⟩ := Assembler.assemble_ok h
  have hkept := entity?_of_mem h he
  rw [hentities] at he
  obtain ⟨pair, hpair, rfl⟩ := List.mem_map.mp he
  obtain ⟨source, -, table, hfrom⟩ := exists_of_mem_right hlinked hpair
  obtain ⟨hkeys, -, -⟩ := link_ok hfrom.link
  obtain ⟨key, -, hkey⟩ := exists_of_mem_right hkeys hl
  have href : pair.1.closed.ref = source.ref := by
    rw [hfrom.closed]
    rfl
  refine ⟨?_, hkey.unresolved⟩
  rw [hkey.target, hkey.targetTable]
  -- The owner is not looked up when it is linked, but it is kept under its name as well.
  by_cases hself : key.targetTable = source.name
  · have hname : pair.1.closed.name = key.targetTable :=
      (congrArg EntityRef.table href).trans hself.symm
    rw [if_pos hself, ← hname, hkept, Option.map_some, href]
  · rw [if_neg hself, map_ref_find?, Assembly.entity?, map_ref_find?, hentities,
      Assembler.map_ref_linked hlinked]

/-- Every entity was made from a table that was read under its name. -/
theorem exists_keptTable
    (h : a.assemble names tables failures = .ok result) (he : e ∈ result.entities) :
    ∃ table, keptTable? tables e.name = some table := by
  obtain ⟨candidates, -, hall⟩ := Assembler.exists_linkedFrom h
  obtain ⟨table, source, pair, hfrom, rfl⟩ := hall e he
  rw [hfrom.name]
  exact ⟨table, Assembler.mem_tablesByName.mp hfrom.table_mem⟩

/-- Every foreign key of a table has an association to the table that it references. -/
theorem exists_association
    {table : Table} {key : ForeignKey}
    (h : a.assemble names tables failures = .ok result) (he : e ∈ result.entities)
    (hkept : keptTable? tables e.name = some table) (hkey : key ∈ table.foreignKeys) :
    ∃ l ∈ e.associations, l.targetTable = key.targetTable := by
  obtain ⟨candidates, -, hall⟩ := Assembler.exists_linkedFrom h
  obtain ⟨t, source, pair, hfrom, rfl⟩ := hall e he
  rw [hfrom.name, Assembler.mem_tablesByName.mp hfrom.table_mem] at hkept
  obtain rfl := Option.some.inj hkept
  obtain ⟨hkeys, -, -⟩ := link_ok hfrom.link
  obtain ⟨l, hl, hof⟩ := exists_of_mem_left hkeys (List.mem_mergeSort.mpr hkey)
  exact ⟨l, hl, hof.targetTable⟩

/-- What the warnings about the unresolved associations of an entity tell. -/
def unresolvedSubjects (e : Entity) : List (Option String × Severity × String × Option String) :=
  (e.associations.filter (·.unresolved)).map (unresolvedSubject e.name)

/-- The warnings that linking gives are about the unresolved associations of each entity. -/
theorem subjects_linked
    {typeNames : List (String × String)} {extracted : List Entity}
    {linked : List (Entity × List Diagnostic)}
    (h : List.Forall₂ (fun source pair => ∃ table,
      Assembler.LinkedFrom a typeNames tables table source pair) extracted linked) :
    (linked.flatMap (·.2)).map Diagnostic.subject =
      (linked.map (·.1.closed)).flatMap unresolvedSubjects := by
  induction h with
  | nil => rfl
  | cons hfirst _ ih =>
      obtain ⟨table, hfirst⟩ := hfirst
      obtain ⟨-, -, hwarnings⟩ := link_ok hfirst.link
      rw [List.flatMap_cons, List.map_append, ih, hwarnings, List.map_cons, List.flatMap_cons,
        unresolvedSubjects, hfirst.entity]
      rfl

/-- Linking notes nothing but warnings about unresolved associations. -/
theorem warning_of_linked
    {typeNames : List (String × String)} {extracted : List Entity}
    {linked : List (Entity × List Diagnostic)}
    (h : List.Forall₂ (fun source pair => ∃ table,
      Assembler.LinkedFrom a typeNames tables table source pair) extracted linked)
    {d : Diagnostic} (hd : d ∈ linked.flatMap (·.2)) :
    d.severity = .warning ∧ d.code = unresolvedCode := by
  have hsubject : d.subject ∈ (linked.map (·.1.closed)).flatMap unresolvedSubjects :=
    subjects_linked h ▸ List.mem_map_of_mem hd
  obtain ⟨e, -, hd⟩ := List.mem_flatMap.mp hsubject
  obtain ⟨l, -, hl⟩ := List.mem_map.mp hd
  exact ⟨(congrArg (·.2.1) hl).symm, (congrArg (·.2.2.1) hl).symm⟩

/-- The warnings about unresolved associations are those of each entity in turn. -/
theorem unresolved_notes (h : a.assemble names tables failures = .ok result) :
    (result.diagnostics.filter (·.code == unresolvedCode)).map Diagnostic.subject =
      result.entities.flatMap unresolvedSubjects := by
  obtain ⟨candidates, linked, missing, -, hlinked, hentities, hnotes⟩ := Assembler.assemble_ok h
  have hsubjects := subjects_linked hlinked
  have hextraction : ((Assembler.tablesByName tables).flatMap
      (a.extractionNotes (Assembler.runTypeNames candidates)
        (Assembler.tablesByName tables))).filter (·.code == unresolvedCode) = [] := by
    rw [List.filter_eq_nil_iff]
    intro d hd hcode
    obtain ⟨table, -, hd⟩ := List.mem_flatMap.mp hd
    exact Assembler.code_extractionNotes hd (beq_iff_eq.mp hcode)
  have hmissing : (missing.map Assembler.missingNote).filter (·.code == unresolvedCode) = [] := by
    rw [List.filter_eq_nil_iff]
    intro d hd hcode
    obtain ⟨name, -, rfl⟩ := List.mem_map.mp hd
    exact code_ofFault_ne _ _ _ (beq_iff_eq.mp hcode)
  have hall : (linked.flatMap (·.2)).filter (·.code == unresolvedCode) = linked.flatMap (·.2) := by
    rw [List.filter_eq_self]
    intro d hd
    exact beq_iff_eq.mpr (warning_of_linked hlinked hd).2
  rw [hnotes, List.filter_append, List.filter_append, hextraction, hmissing, hall,
    List.nil_append, List.append_nil, hsubjects, hentities]

/-- The links of a finished assembly are closed.  An association is unresolved exactly when
the assembly has no entity of the referenced table, and else its target is the entity that the
assembly keeps there, which is the owner itself when the table references itself.  The
warnings about unresolved associations of a table are one for each of them, in order. -/
theorem links_closed
    (h : a.assemble names tables failures = .ok result) (he : e ∈ result.entities) :
    (∀ l ∈ e.associations,
      (l.unresolved = true ↔ ∀ d ∈ result.entities, d.name ≠ l.targetTable) ∧
      (l.unresolved = false → ∃ d, result.entity? l.targetTable = some d ∧
        l.target = some d.ref ∧ (l.targetTable = e.name → d = e))) ∧
    (result.diagnostics.filter fun d =>
        d.table == some e.name && d.code == unresolvedCode).map Diagnostic.subject =
      (e.associations.filter (·.unresolved)).map fun l =>
        (some e.name, Severity.warning, unresolvedCode, some l.name) := by
  constructor
  · intro l hl
    obtain ⟨htarget, hunresolved⟩ := target_of_association h he hl
    rw [hunresolved, htarget, Option.isNone_map]
    constructor
    · rw [Option.isNone_iff_eq_none, Assembly.entity?, List.find?_eq_none]
      simp only [beq_iff_eq, ne_eq]
    · intro hsome
      cases hfind : result.entity? l.targetTable with
      | none =>
          rw [hfind] at hsome
          cases hsome
      | some d =>
          refine ⟨d, rfl, rfl, fun hself => ?_⟩
          rw [hself, entity?_of_mem h he] at hfind
          exact (Option.some.inj hfind).symm
  · have hsplit : (result.diagnostics.filter fun d =>
        d.table == some e.name && d.code == unresolvedCode).map Diagnostic.subject =
        ((result.diagnostics.filter (·.code == unresolvedCode)).map Diagnostic.subject).filter
          (·.1 == some e.name) := by
      rw [List.filter_map, List.filter_filter]
      rfl
    rw [hsplit, unresolved_notes h]
    refine filter_flatMap_of_owner (f := unresolvedSubjects) he (nodup_names_entities h) ?_ ?_
    · intro subject hsubject
      obtain ⟨l, -, rfl⟩ := List.mem_map.mp hsubject
      exact beq_self_eq_true _
    · intro d _ hne subject hsubject
      obtain ⟨l, -, rfl⟩ := List.mem_map.mp hsubject
      exact beq_eq_false_iff_ne.mpr fun heq => hne (Option.some.inj heq)

/-- A table that references itself, and another one that was not read. -/
theorem links_of_staff :
    ∃ result, Assembler.withoutEnums.assemble ["staff"] [Assembler.staff] [] = .ok result ∧
      ∃ e ∈ result.entities,
        (∃ l ∈ e.associations, l.targetTable = "staff" ∧ l.unresolved = false ∧
          l.target = some e.ref) ∧
        (∃ l ∈ e.associations, l.targetTable = "office" ∧ l.unresolved = true) ∧
        (result.diagnostics.filter fun d =>
            d.table == some e.name && d.code == unresolvedCode).map Diagnostic.subject =
          (e.associations.filter (·.unresolved)).map fun l =>
            (some e.name, Severity.warning, unresolvedCode, some l.name) := by
  obtain ⟨result, h, e, he, hname⟩ := Assembler.staff_assembled
  obtain ⟨hlinks, hwarnings⟩ := links_closed h he
  have hkept : keptTable? [Assembler.staff] e.name = some Assembler.staff := hname ▸ rfl
  refine ⟨result, h, e, he, ?_, ?_, hwarnings⟩
  · obtain ⟨l, hl, htable⟩ := exists_association h he hkept (List.mem_of_getElem? (i := 1) rfl)
    obtain ⟨hunresolved, htarget⟩ := hlinks l hl
    have hresolved : l.unresolved = false := by
      rw [Bool.eq_false_iff, ne_eq, hunresolved]
      exact fun hnone => hnone e he (hname.trans htable.symm)
    obtain ⟨d, -, hd, hself⟩ := htarget hresolved
    rw [hself (htable.trans hname.symm)] at hd
    exact ⟨l, hl, htable, hresolved, hd⟩
  · obtain ⟨l, hl, htable⟩ := exists_association h he hkept (List.mem_of_getElem? (i := 0) rfl)
    refine ⟨l, hl, htable, (hlinks l hl).1.mpr fun d hd hoffice => ?_⟩
    obtain ⟨table, hread⟩ := exists_keptTable h hd
    rw [hoffice, htable] at hread
    cases hread

end Closure
end Model
end TableCast
