import TableCast.Proofs.Model.FailureReports
import TableCast.Proofs.Model.MemberNames

/-!
# The column pairs of an association

A foreign key is checked when its table gets its columns and paired when the table is linked.  Both
passes ask for the referenced columns in the same way, so a foreign key that passes the check is
paired without a loss, and one that does not excludes its table before it is linked.

**References.**  `referencedColumns` are the columns that a foreign key means in a table that was
read, and `References` says that the table lets itself be referenced by them.

**Results.**
* `targetColumns_eq_ok_iff`: the check accepts exactly the foreign keys that reference their target.
* `validateKeys_eq_ok_iff`: a table passes the check when its foreign keys do.
* `targets_pairColumns`: the right-hand sides of the pairs.
* `pairs_of_ofKey`: the pairs of the association of one foreign key.
* `excludesForKey_of_not_references`: a foreign key that does not reference its target.
* `columns_paired`: both, over a whole assembly.
-/

namespace TableCast
namespace Model

open Name Schema Fallible

/-- The columns that a foreign key references in a table that was read: those that it declares, else
the primary key. -/
def referencedColumns (key : ForeignKey) (target : Table) : List String :=
  if key.targetColumns = [] then target.primaryKey else key.targetColumns

/-- A foreign key references a table column by column. -/
structure References (key : ForeignKey) (target : Table) : Prop where
  /-- Each source column has a referenced one. -/
  count : (referencedColumns key target).length = key.sourceColumns.length
  /-- Only a part of the primary key is referenced if a unique index is made of that part. -/
  whole : referencedColumns key target ⊆ target.primaryKey →
    ¬ target.primaryKey ⊆ referencedColumns key target →
    ∃ index ∈ target.indexes, index.unique = true ∧
      ∀ column, column ∈ index.columns ↔ column ∈ referencedColumns key target

/-- The pairs of an association are those of a foreign key, in a run over the given tables. -/
structure PairsColumns (tables : List Table) (key : ForeignKey) (l : Association) : Prop where
  /-- With a target that was read, source columns stand on the left and the columns that they
  reference on the right. -/
  read : ∀ target, keptTable? tables key.targetTable = some target →
    References key target ∧ l.sourceColumns = key.sourceColumns ∧
      l.targetColumns = (referencedColumns key target).map some
  /-- With any other target, source columns stand on the left and what the foreign key declares for
  them on the right. -/
  unread : keptTable? tables key.targetTable = none →
    (key.targetColumns = [] ∨ key.targetColumns.length = key.sourceColumns.length) →
    l.sourceColumns = key.sourceColumns ∧
      l.targetColumns =
        if key.targetColumns = [] then key.sourceColumns.map fun _ => none
        else key.targetColumns.map some

section Check

variable {key : ForeignKey} {source : String} {target : Table} {columns : List String}

theorem isSubset_iff {xs ys : List String} : isSubset xs ys = true ↔ xs ⊆ ys := by
  simp [isSubset, List.subset_def]

theorem sameMembers_iff {xs ys : List String} :
    sameMembers xs ys = true ↔ ∀ column, column ∈ xs ↔ column ∈ ys := by
  rw [sameMembers, Bool.and_eq_true, isSubset_iff, isSubset_iff]
  constructor
  · rintro ⟨hxy, hyx⟩ column
    exact ⟨fun h => hxy h, fun h => hyx h⟩
  · exact fun h => ⟨fun column => (h column).mp, fun column => (h column).mpr⟩

/-- The check for a part of a key finds a foreign key to blame exactly when no unique index is made
of a real part of the key. -/
theorem partOfKey_iff :
    (!target.primaryKey.isEmpty && isSubset columns target.primaryKey &&
        !isSubset target.primaryKey columns &&
        !target.indexes.any fun index => index.unique && sameMembers index.columns columns) =
      true ↔
    columns ⊆ target.primaryKey ∧ ¬ target.primaryKey ⊆ columns ∧
      ¬ ∃ index ∈ target.indexes, index.unique = true ∧
        ∀ column, column ∈ index.columns ↔ column ∈ columns := by
  simp only [Bool.and_eq_true, Bool.not_eq_true', ← Bool.not_eq_true, isSubset_iff,
    List.any_eq_true, sameMembers_iff]
  constructor
  · rintro ⟨⟨⟨-, hpart⟩, hreal⟩, hindex⟩
    exact ⟨hpart, hreal, hindex⟩
  · rintro ⟨hpart, hreal, hindex⟩
    refine ⟨⟨⟨fun hempty => hreal ?_, hpart⟩, hreal⟩, hindex⟩
    rw [List.isEmpty_iff.mp hempty]
    exact List.nil_subset _

/-- The check accepts exactly the foreign keys that reference their target. -/
theorem targetColumns_eq_ok_iff :
    targetColumns key source (some target) = .ok columns ↔
      References key target ∧ columns = referencedColumns key target := by
  have hreferenced : (if key.targetColumns.isEmpty then target.primaryKey else key.targetColumns) =
      referencedColumns key target := by
    simp only [referencedColumns, List.isEmpty_iff]
  simp only [targetColumns]
  rw [hreferenced]
  by_cases hcount : (referencedColumns key target).length = key.sourceColumns.length
  · rw [if_neg (by simp [hcount])]
    split_ifs with hpart
    · obtain ⟨hpart, hreal, hindex⟩ := partOfKey_iff.mp hpart
      simp only [false_iff, not_and]
      exact fun h _ => hindex (h.whole hpart hreal)
    · rw [Except.ok.injEq, eq_comm]
      refine (and_iff_right ⟨hcount, fun hsub hreal => ?_⟩).symm
      by_contra hindex
      exact hpart (partOfKey_iff.mpr ⟨hsub, hreal, hindex⟩)
  · rw [if_pos (by simpa using hcount)]
    have hnot : ¬ References key target := fun h => hcount h.count
    split_ifs
    · simp [hnot]
    · simp [hnot]

/-- A table passes the check exactly when its foreign keys reference those of the tables that were
read. -/
theorem validateKeys_eq_ok_iff {tables : List Table} {table : Table} :
    validateKeys table (Assembler.tablesByName tables) = .ok () ↔
      ∀ key ∈ table.foreignKeys, ∀ target, keptTable? tables key.targetTable = some target →
        References key target := by
  rw [validateKeys, forM_eq_ok]
  refine forall₂_congr fun key _ => ?_
  rw [Assembler.tableNamed?_tablesByName, bind_eq_ok]
  cases hread : keptTable? tables key.targetTable with
  | none =>
      constructor
      · intro _ target htarget
        cases htarget
      · exact fun _ => ⟨key.targetColumns, rfl, rfl⟩
  | some target =>
      constructor
      · rintro ⟨columns, hcolumns, -⟩ other hother
        obtain rfl := Option.some.inj hother
        exact (targetColumns_eq_ok_iff.mp hcolumns).1
      · exact fun h => ⟨_, targetColumns_eq_ok_iff.mpr ⟨h target rfl, rfl⟩, rfl⟩

/-- The right-hand sides of the pairs, when there are as many referenced columns or none. -/
theorem targets_pairColumns
    {sources targets : List String} (h : targets = [] ∨ targets.length = sources.length) :
    (pairColumns sources targets).map (·.2) =
      if targets = [] then sources.map fun _ => none else targets.map some := by
  rw [pairColumns]
  split_ifs with hempty hnil hnil
  · exact List.map_map
  · exact absurd (List.isEmpty_iff.mp hempty) hnil
  · exact absurd (List.isEmpty_iff.mpr hnil) hempty
  · have hlength := h.resolve_left hnil
    exact List.map_snd_zip (by simp [hlength])

end Check

section Pairs

variable {owner : Entity} {entities : List Entity} {tables : List Table}
variable {key : ForeignKey} {l : Association}

/-- The association of a foreign key pairs its columns. -/
theorem pairs_of_ofKey
    (h : OfKey owner entities (Assembler.tablesByName tables) key l) :
    PairsColumns tables key l := by
  obtain ⟨columns, hcolumns, hpairs⟩ := h.pairs
  rw [Assembler.tableNamed?_tablesByName] at hcolumns
  constructor
  case read =>
    intro target htarget
    rw [htarget] at hcolumns
    obtain ⟨hreferences, rfl⟩ := targetColumns_eq_ok_iff.mp hcolumns
    have hlength := hreferences.count
    rw [Association.sourceColumns, Association.targetColumns, hpairs]
    refine ⟨hreferences, sources_pairColumns_of_length (.inr hlength), ?_⟩
    rw [targets_pairColumns (.inr hlength)]
    split_ifs with hnil
    · rw [hnil] at hlength ⊢
      rw [List.eq_nil_of_length_eq_zero hlength.symm]
      rfl
    · rfl
  case unread =>
    intro hnone hdeclared
    rw [hnone] at hcolumns
    obtain rfl := Except.ok.inj hcolumns
    rw [Association.sourceColumns, Association.targetColumns, hpairs]
    exact ⟨sources_pairColumns_of_length hdeclared, targets_pairColumns hdeclared⟩

end Pairs

namespace Assembler

section Assemblies

variable {a : Assembler} {names : List String} {tables : List Table}
variable {failures : List (String × String)} {result : Assembly} {table : Table}

/-- An assembly excludes a table for one of its foreign keys: it fails, and the reason is noted
about it as an error about a part of a key or about the schema. -/
structure ExcludesForKey (result : Assembly) (table : Table) : Prop where
  apart : table.name ∉ result.assembled
  reason : ∃ d ∈ result.diagnostics, lookup? result.failures table.name = some d.message ∧
    d.table = some table.name ∧ d.severity = .error ∧
    (d.code = lowerCode FaultKind.partialKey.code ∨ d.code = lowerCode FaultKind.schemaRead.code)

/-- The associations of an entity stand for the foreign keys of its table and pair their columns. -/
theorem associations_paired {e : Entity}
    (h : a.assemble names tables failures = .ok result) (he : e ∈ result.entities) :
    ∃ table, keptTable? tables e.name = some table ∧
      ∃ keys, keys.Perm table.foreignKeys ∧
        List.Forall₂ (fun key l => StandsFor tables key l ∧ PairsColumns tables key l) keys
          e.associations := by
  obtain ⟨candidates, -, hall⟩ := exists_linkedFrom h
  obtain ⟨table, source, pair, hfrom, rfl⟩ := hall e he
  obtain ⟨hkeys, -, -⟩ := link_ok hfrom.link
  refine ⟨table, hfrom.name ▸ mem_tablesByName.mp hfrom.table_mem, _,
    List.mergeSort_perm _ keyLe, ?_⟩
  exact hkeys.imp fun key l hl => ⟨standsFor_of_ofKey hl, pairs_of_ofKey hl⟩

/-- A table whose foreign keys do not pass the check is excluded for the first of them. -/
theorem excludesForKey_of_validateKeys {e : KeyError}
    (h : a.assemble names tables failures = .ok result) (htable : table ∈ tablesByName tables)
    (hvalid : validateKeys table (tablesByName tables) = .error e) :
    ExcludesForKey result table := by
  constructor
  case apart =>
    intro hmem
    obtain ⟨entity, hentity, hname⟩ := List.mem_map.mp hmem
    obtain ⟨candidates, -, hall⟩ := exists_linkedFrom h
    obtain ⟨own, source, pair, hfrom, rfl⟩ := hall entity hentity
    obtain rfl := List.inj_on_of_nodup_map (nodup_map_name_tablesByName tables) htable
      hfrom.table_mem (hname.symm.trans hfrom.name)
    obtain ⟨hok, -⟩ := extract_ok hfrom.extract
    rw [hvalid] at hok
    cases hok
  case reason =>
    refine ⟨keyNote table e, (keyNote_mem_iff h htable hvalid).mpr rfl,
      reason_of_refused h htable hvalid, rfl, rfl, ?_⟩
    exact (code_key e).imp (congrArg lowerCode) (congrArg lowerCode)

/-- A foreign key that does not reference its target excludes its table. -/
theorem excludesForKey_of_not_references
    {key : ForeignKey} {target : Table}
    (h : a.assemble names tables failures = .ok result) (htable : table ∈ tablesByName tables)
    (hkey : key ∈ table.foreignKeys) (hread : keptTable? tables key.targetTable = some target)
    (hnot : ¬ References key target) :
    ExcludesForKey result table := by
  cases hvalid : validateKeys table (tablesByName tables) with
  | error e => exact excludesForKey_of_validateKeys h htable hvalid
  | ok _ => exact absurd (validateKeys_eq_ok_iff.mp hvalid key hkey target hread) hnot

/-- **Column pairs.**  Every association pairs the columns of its foreign key; and a foreign key
that does not reference a table that was read excludes its own table. -/
theorem columns_paired (h : a.assemble names tables failures = .ok result) :
    (∀ e ∈ result.entities, ∃ table, keptTable? tables e.name = some table ∧
      ∃ keys, keys.Perm table.foreignKeys ∧
        List.Forall₂ (fun key l => StandsFor tables key l ∧ PairsColumns tables key l) keys
          e.associations) ∧
    ∀ table, keptTable? tables table.name = some table →
      ∀ key ∈ table.foreignKeys, ∀ target, keptTable? tables key.targetTable = some target →
        ¬ References key target → ExcludesForKey result table := by
  constructor
  · exact fun e he => associations_paired h he
  · intro table hkept key hkey target hread hnot
    exact excludesForKey_of_not_references h (mem_tablesByName.mpr hkept) hkey hread hnot

end Assemblies

section Sample

/-- A table with a key of two columns. -/
def seats : Table :=
  { name := "seats"
    columns := [{ name := "row", nativeType := "int" }, { name := "number", nativeType := "int" }]
    indexes := [
      { name := "seats_pkey", columns := ["row", "number"], unique := true, primary := true }] }

/-- A table that references the whole key, and a table that was not read. -/
def tickets : Table :=
  { name := "tickets"
    columns := [
      { name := "row_no", nativeType := "int" },
      { name := "seat_no", nativeType := "int" },
      { name := "show_id", nativeType := "int" }]
    foreignKeys := [
      { name := "seat"
        sourceColumns := ["row_no", "seat_no"]
        targetTable := "seats"
        targetColumns := [] },
      { name := "show"
        sourceColumns := ["show_id"]
        targetTable := "shows"
        targetColumns := [] }] }

/-- A foreign key that references one column of the key. -/
def rowKey : ForeignKey :=
  { name := "seat", sourceColumns := ["row_no"], targetTable := "seats", targetColumns := ["row"] }

/-- A table that references a part of the key. -/
def stubs : Table :=
  { name := "stubs"
    columns := [{ name := "row_no", nativeType := "int" }]
    foreignKeys := [rowKey] }

theorem not_references_rowKey : ¬ References rowKey seats := by
  intro h
  obtain ⟨index, hindex, -, hmembers⟩ := h.whole (by decide) (by decide)
  obtain rfl := List.mem_singleton.mp hindex
  exact absurd ((hmembers "number").mp (by decide)) (by decide)

theorem validateKeys_tickets :
    validateKeys tickets (tablesByName [seats, tickets, stubs]) = .ok () := by
  refine validateKeys_eq_ok_iff.mpr fun key hkey target hread => ?_
  rcases List.mem_pair.mp hkey with rfl | rfl
  · obtain rfl : seats = target := Option.some.inj hread
    exact ⟨rfl, fun _ hpart => absurd (List.Subset.refl _) hpart⟩
  · cases hread

/-- A key of two columns that is referenced as a whole and in part. -/
theorem columns_of_tickets :
    ∃ result, withoutEnums.assemble ["tickets"] [seats, tickets, stubs] [] = .ok result ∧
      (∃ e ∈ result.entities, ∃ keys, keys.Perm tickets.foreignKeys ∧
        List.Forall₂ (fun key l => StandsFor [seats, tickets, stubs] key l ∧
          PairsColumns [seats, tickets, stubs] key l) keys e.associations) ∧
      ExcludesForKey result stubs := by
  have hsources : ∀ table ∈ [seats, tickets, stubs], ∀ key ∈ table.foreignKeys,
      key.sourceColumns ≠ [] := by decide
  obtain ⟨result, h⟩ := assemble_total (a := withoutEnums) (typeName_total rfl) hsources
    ["tickets"] []
  have hextract : ∀ typeNames, ∃ entity, (withoutEnums.extract typeNames
      (tablesByName [seats, tickets, stubs]) tickets).2 = .ok entity := by
    intro typeNames
    rw [extract, validateKeys_tickets]
    exact ⟨_, rfl⟩
  obtain ⟨e, he, hname⟩ := exists_entity h rfl hextract
  obtain ⟨hpairs, hrefused⟩ := columns_paired h
  obtain ⟨table, hkept, keys, hkeys⟩ := hpairs e he
  rw [hname] at hkept
  obtain rfl : tickets = table := Option.some.inj hkept
  exact ⟨result, h, ⟨e, he, keys, hkeys⟩,
    hrefused stubs rfl rowKey (List.mem_singleton_self _) seats rfl not_references_rowKey⟩

end Sample

end Assembler

end Model
end TableCast
