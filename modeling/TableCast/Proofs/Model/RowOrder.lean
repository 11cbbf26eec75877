import TableCast.Proofs.Model.LinkSteps
import TableCast.Proofs.Model.Extraction

/-!
# Tables whose rows come in another order

A catalog may return the rows of a table in any order.  Wherever an assembly depends on the
order of rows it sorts them first, by what tells them apart, so two tables with the same rows
look alike to it.

**Rows.**  `SameRows` says that two tables have the same rows, `DistinctRows` that the rows of
a table are told apart, and `Alike` that in addition the columns come in one order.

**Results.**
* `Alike.primaryKey`, `Alike.secondaryIndexes`, `Alike.consideredLists`, `Alike.sortedKeys`: what
  is read from alike tables is the same.
* `Alike.describeColumns`, `extract_of_alike`, `link_of_alike`: so is what is made of it.
* `passes_of_alike`: the passes of an assembly over alike tables give the same.
-/

namespace TableCast
namespace Model

open Name Schema Fallible Reordering

/-- Two tables have the same rows, in any order. -/
structure SameRows (t u : Table) : Prop where
  name : t.name = u.name
  columns : t.columns.Perm u.columns
  foreignKeys : t.foreignKeys.Perm u.foreignKeys
  indexes : t.indexes.Perm u.indexes
  valueLists : t.valueLists.Perm u.valueLists

/-- The rows of a table are told apart. -/
@[mk_iff] structure DistinctRows (t : Table) : Prop where
  /-- Two columns have two names. -/
  columns : (t.columns.map (·.name)).Nodup
  /-- Two foreign keys differ in their source columns or in their names. -/
  foreignKeys : (t.foreignKeys.map fun key => (key.sourceColumns, key.name)).Nodup
  /-- Two indexes have two names. -/
  indexes : (t.indexes.map (·.name)).Nodup
  /-- At most one index is primary. -/
  primary : (t.indexes.filter (·.primary)).length ≤ 1
  /-- A column has at most one closed value list. -/
  valueLists : (t.valueLists.map (·.column)).Nodup

instance (t : Table) : Decidable (DistinctRows t) :=
  decidable_of_iff' _ (distinctRows_iff t)

/-- Two tables have the same rows, told apart, and their columns in one order. -/
structure Alike (t u : Table) : Prop where
  rows : SameRows t u
  distinct : DistinctRows t
  columns : t.columns = u.columns

namespace Alike

section Facts

variable {t u : Table}

/-- The primary key of alike tables is the same: there is at most one primary index. -/
theorem primaryKey (h : Alike t u) : t.primaryKey = u.primaryKey := by
  have hunique : ∀ i ∈ t.indexes, ∀ j ∈ t.indexes, i.primary = true → j.primary = true → i = j := by
    intro i hi j hj hpi hpj
    have himem := List.mem_filter.mpr ⟨hi, hpi⟩
    have hjmem := List.mem_filter.mpr ⟨hj, hpj⟩
    have hlength := h.distinct.primary
    cases hprimary : t.indexes.filter (·.primary) with
    | nil =>
        rw [hprimary] at himem
        exact absurd himem List.not_mem_nil
    | cons k rest =>
        rw [hprimary] at himem hjmem hlength
        have hrest : rest = [] := List.length_eq_zero_iff.mp (by simpa using hlength)
        rw [hrest, List.mem_singleton] at himem hjmem
        rw [himem, hjmem]
  rw [Table.primaryKey, Table.primaryKey, find?_eq_of_perm hunique h.rows.indexes]

/-- The other indexes are taken by name. -/
theorem secondaryIndexes (h : Alike t u) :
    Assembler.secondaryIndexes t = Assembler.secondaryIndexes u := by
  have hsorted : t.indexes.mergeSort (fun i j => decide (i.name ≤ j.name)) =
      u.indexes.mergeSort (fun i j => decide (i.name ≤ j.name)) := by
    refine mergeSort_eq_of_perm (fun i j k => Scope.nameLe_trans i.name j.name k.name)
      (fun i j => Scope.nameLe_total i.name j.name) ?_ h.rows.indexes
    intro i hi j hj hij hji
    have hname := le_antisymm (of_decide_eq_true hij) (of_decide_eq_true hji)
    exact List.inj_on_of_nodup_map h.distinct.indexes hi hj hname
  rw [Assembler.secondaryIndexes, Assembler.secondaryIndexes, hsorted, h.primaryKey]

/-- The value lists that give enum types are taken by column. -/
theorem consideredLists (h : Alike t u) : Model.consideredLists t = Model.consideredLists u := by
  have hdeclared : isDeclaredColumn t = isDeclaredColumn u := by
    funext values
    rw [isDeclaredColumn, isDeclaredColumn, h.columns]
  rw [Model.consideredLists, Model.consideredLists, hdeclared]
  refine mergeSort_eq_of_perm (fun v w x => Scope.nameLe_trans v.column w.column x.column)
    (fun v w => Scope.nameLe_total v.column w.column) ?_ (h.rows.valueLists.filter _)
  intro v hv w hw hvw hwv
  have hcolumn := le_antisymm (of_decide_eq_true hvw) (of_decide_eq_true hwv)
  exact List.inj_on_of_nodup_map h.distinct.valueLists (List.mem_of_mem_filter hv)
    (List.mem_of_mem_filter hw) hcolumn

/-- A column has one value list, which is found in every order. -/
theorem declaredList? (h : Alike t u) (column : String) :
    Model.declaredList? t column = Model.declaredList? u column := by
  refine find?_eq_of_perm ?_ ((List.reverse_perm _).trans
    (h.rows.valueLists.trans (List.reverse_perm _).symm))
  intro v hv w hw hcv hcw
  have hcolumn : v.column = w.column := (beq_iff_eq.mp hcv).trans (beq_iff_eq.mp hcw).symm
  exact List.inj_on_of_nodup_map h.distinct.valueLists (List.mem_reverse.mp hv)
    (List.mem_reverse.mp hw) hcolumn

/-- The foreign keys are taken by source columns and name. -/
theorem sortedKeys (h : Alike t u) :
    t.foreignKeys.mergeSort keyLe = u.foreignKeys.mergeSort keyLe := by
  refine mergeSort_eq_of_perm keyLe_trans keyLe_total ?_ h.rows.foreignKeys
  intro k hk l hl hkl hlk
  have hpair := le_antisymm (keyLe_eq_true_iff.mp hkl) (keyLe_eq_true_iff.mp hlk)
  exact List.inj_on_of_nodup_map h.distinct.foreignKeys hk hl (toLex.injective hpair)

end Facts

section Columns

variable {t u : Table} (a : Assembler)

theorem fieldNames (h : Alike t u) : a.fieldNames t = a.fieldNames u := by
  rw [Assembler.fieldNames, Assembler.fieldNames, h.columns]

theorem tableEnums (h : Alike t u) (typeNames : List (String × String)) :
    a.tableEnums typeNames t = a.tableEnums typeNames u := by
  have henums : enumTypes a.normalizer typeNames t = enumTypes a.normalizer typeNames u := by
    have hone : enumTypeOf a.normalizer typeNames t = enumTypeOf a.normalizer typeNames u := by
      funext values
      rw [enumTypeOf, enumTypeOf, h.rows.name]
    rw [enumTypes, enumTypes, h.consideredLists, hone]
  rw [Assembler.tableEnums, Assembler.tableEnums, henums]

theorem enumTypeCandidates (h : Alike t u) (n : Normalizer) :
    Model.enumTypeCandidates n t = Model.enumTypeCandidates n u := by
  rw [Model.enumTypeCandidates, Model.enumTypeCandidates, h.consideredLists, h.rows.name]

theorem describeColumn
    (h : Alike t u) (enums : List EnumType) (names : List (String × String)) (c : Schema.Column) :
    a.describeColumn t enums names c = a.describeColumn u enums names c := by
  rw [Assembler.describeColumn, Assembler.describeColumn, h.declaredList?, h.primaryKey,
    h.rows.name, any_eq_of_perm h.rows.foreignKeys]

theorem describeColumns
    (h : Alike t u) (enums : List EnumType) (names : List (String × String)) :
    ∀ raw : List Schema.Column,
      a.describeColumns t enums names raw = a.describeColumns u enums names raw
  | [] => rfl
  | c :: raw => by
      rw [Assembler.describeColumns, Assembler.describeColumns, h.describeColumn,
        describeColumns h enums names raw]

end Columns

/-- A table is alike to itself when its rows are told apart. -/
theorem refl {t : Table} (h : DistinctRows t) : Alike t t :=
  ⟨⟨rfl, List.Perm.refl _, List.Perm.refl _, List.Perm.refl _, List.Perm.refl _⟩, h, rfl⟩

end Alike

section Runs

variable {a : Assembler} {typeNames : List (String × String)}
variable {ts us : List Table} {t u : Table}

theorem tableNamed?_of_alike (h : List.Forall₂ Alike ts us) (name : String) :
    Option.Rel Alike (tableNamed? ts name) (tableNamed? us name) := by
  refine find?_of_forall₂ h fun t u halike => ?_
  rw [halike.rows.name]

/-- A foreign key is checked alike against alike tables. -/
theorem targetColumns_of_alike
    {target target' : Option Table} (h : Option.Rel Alike target target')
    (key : ForeignKey) (source : String) :
    targetColumns key source target = targetColumns key source target' := by
  cases h with
  | none => rfl
  | some h =>
      simp only [targetColumns, h.primaryKey, h.rows.name, any_eq_of_perm h.rows.indexes]

/-- Whether all foreign keys are valid does not depend on their order. -/
theorem validateKeys_of_alike (h : List.Forall₂ Alike ts us) (htable : Alike t u) :
    validateKeys t ts = .ok () ↔ validateKeys u us = .ok () := by
  rw [validateKeys, validateKeys, forM_eq_ok, forM_eq_ok]
  refine forall_congr' fun key => ?_
  rw [htable.rows.foreignKeys.mem_iff, htable.rows.name,
    targetColumns_of_alike (tableNamed?_of_alike h key.targetTable)]

/-- Alike tables with valid foreign keys get their columns alike. -/
theorem extract_eq_of_alike (h : List.Forall₂ Alike ts us) (htable : Alike t u)
    (hvalid : validateKeys t ts = .ok ()) :
    a.extract typeNames ts t = a.extract typeNames us u := by
  rw [Assembler.extract, Assembler.extract, hvalid, (validateKeys_of_alike h htable).mp hvalid,
    htable.tableEnums, htable.fieldNames, htable.columns, htable.rows.name, htable.primaryKey,
    htable.secondaryIndexes]
  cases a.tableEnums typeNames u with
  | error e => rfl
  | ok enums =>
      dsimp only
      rw [htable.describeColumns]

/-- Alike tables give the same entity, or none. -/
theorem extract_of_alike (h : List.Forall₂ Alike ts us) (htable : Alike t u) :
    (a.extract typeNames ts t).2.toOption = (a.extract typeNames us u).2.toOption := by
  cases ht : validateKeys t ts with
  | ok _ => rw [extract_eq_of_alike h htable ht]
  | error e =>
      cases hu : validateKeys u us with
      | error e' =>
          rw [Assembler.extract, Assembler.extract, ht, hu]
          rfl
      | ok _ =>
          rw [(validateKeys_of_alike h htable).mpr hu] at ht
          cases ht

theorem extracted_of_alike (h : List.Forall₂ Alike ts us) :
    a.extracted typeNames ts = a.extracted typeNames us := by
  have hall : ∀ {rest rest' : List Table}, List.Forall₂ Alike rest rest' →
      (rest.filterMap fun table => (a.extract typeNames ts table).2.toOption) =
        rest'.filterMap fun table => (a.extract typeNames us table).2.toOption := by
    intro rest rest' hrest
    induction hrest with
    | nil => rfl
    | cons hfirst _ ih =>
        rw [List.filterMap_cons, List.filterMap_cons, ih, extract_of_alike h hfirst]
  exact hall h

/-- Alike tables are linked alike. -/
theorem link_of_alike
    (h : List.Forall₂ Alike ts us) (htable : Alike t u)
    (n : Normalizer) (owner : Entity) (entities : List Entity) :
    link n owner t entities ts = link n owner u entities us := by
  have hkey : linkKey n owner entities ts = linkKey n owner entities us := by
    funext state key
    have htarget := tableNamed?_of_alike h key.targetTable
    have hread : (tableNamed? ts key.targetTable).isSome =
        (tableNamed? us key.targetTable).isSome := isSome_eq_of_rel htarget
    rw [linkKey, linkKey, targetColumns_of_alike htarget, hread]
  rw [link, link, htable.sortedKeys, hkey]

theorem sourceTable_of_alike (h : List.Forall₂ Alike ts us) (entity : Entity) :
    Alike (Assembler.sourceTable ts entity) (Assembler.sourceTable us entity) := by
  have htable := tableNamed?_of_alike h entity.name
  rw [Assembler.sourceTable, Assembler.sourceTable]
  generalize tableNamed? ts entity.name = table at htable ⊢
  generalize tableNamed? us entity.name = table' at htable ⊢
  cases htable with
  | none =>
      exact Alike.refl
        ⟨List.nodup_nil, List.nodup_nil, List.nodup_nil, Nat.zero_le 1, List.nodup_nil⟩
  | some htable => exact htable

theorem typeCandidates_of_alike (h : List.Forall₂ Alike ts us) :
    a.typeCandidates ts = a.typeCandidates us := by
  rw [Assembler.typeCandidates, Assembler.typeCandidates]
  congr 1
  induction h with
  | nil => rfl
  | cons hfirst _ ih =>
      rw [List.mapM_cons, List.mapM_cons, ih, hfirst.rows.name, hfirst.enumTypeCandidates]

/-- The passes of an assembly over alike tables give the same. -/
theorem passes_of_alike (h : List.Forall₂ Alike ts us) : a.passes ts = a.passes us := by
  have hlink : ∀ entities, a.linkEntity ts entities = a.linkEntity us entities := by
    intro entities
    funext entity
    rw [Assembler.linkEntity, Assembler.linkEntity,
      link_of_alike h (sourceTable_of_alike h entity)]
  simp only [Assembler.passes, typeCandidates_of_alike h, extracted_of_alike h, hlink]

end Runs

end Model
end TableCast
