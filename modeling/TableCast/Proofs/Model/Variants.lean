import TableCast.Proofs.Model.Exclusions
import TableCast.Proofs.Model.TypeNames

/-!
# Readings that differ at one table

Two readings of a database agree on every table but one, of which they have two versions with the
same columns and indexes.  What the other tables read of that table is its name, its keys and
which of its columns have values, and the two versions agree in all of it.

**Versions.**  `Variant` relates two versions of a table, `DifferAt` two readings, and `Counterpart`
the tables that they have under one name.

**Results.**
* `counterparts_tablesByName`: two readings that differ at one table, taken by name.
* `targetColumns_of_counterparts`: a foreign key is checked alike against counterparts.
* `runTypeNames_of_counterparts`: the types of both runs get the same names.
* `extract_of_counterparts`: one table gets the same columns in both runs, or fails alike.
* `filter_filterMap_of_counterparts`: what a pass over the tables makes of the other ones.
-/

namespace TableCast
namespace Model

open Name Schema Fallible Reordering

/-- A table declares values for a column. -/
def Declares (t : Table) (column : String) : Prop :=
  ∃ values ∈ t.valueLists, values.column = column ∧ values.values ≠ []

/-- Two versions of a table.  They may differ in their foreign keys and in what values their
columns have, but not in which columns have values. -/
structure Variant (t u : Table) : Prop where
  name : t.name = u.name
  columns : t.columns = u.columns
  indexes : t.indexes = u.indexes
  declares : ∀ column, Declares t column ↔ Declares u column

/-- Two readings agree on every table but one, of which they have two versions, or none. -/
structure DifferAt (f : String) (ts us : List Table) : Prop where
  others : ∀ name, name ≠ f → keptTable? ts name = keptTable? us name
  versions : Option.Rel Variant (keptTable? ts f) (keptTable? us f)

/-- Two tables that stand under one name in readings that differ at one table. -/
structure Counterpart (f : String) (t u : Table) : Prop where
  variant : Variant t u
  same : t.name ≠ f → t = u

section Versions

variable {f : String} {t u : Table} {ts us : List Table}

namespace Variant

theorem refl (t : Table) : Variant t t := ⟨rfl, rfl, rfl, fun _ => Iff.rfl⟩

theorem symm (h : Variant t u) : Variant u t :=
  ⟨h.name.symm, h.columns.symm, h.indexes.symm, fun column => (h.declares column).symm⟩

theorem primaryKey (h : Variant t u) : t.primaryKey = u.primaryKey := by
  rw [Table.primaryKey, Table.primaryKey, h.indexes]

end Variant

theorem DifferAt.symm (h : DifferAt f ts us) : DifferAt f us ts where
  others name hname := (h.others name hname).symm
  versions := by
    have hversions := h.versions
    generalize keptTable? ts f = t at hversions ⊢
    generalize keptTable? us f = u at hversions ⊢
    cases hversions with
    | none => exact .none
    | some hversion => exact .some hversion.symm

/-- Under every name the readings have counterparts, or no table. -/
theorem DifferAt.counterparts (h : DifferAt f ts us) (name : String) :
    Option.Rel (Counterpart f) (keptTable? ts name) (keptTable? us name) := by
  by_cases hname : name = f
  · subst hname
    have hversions := h.versions
    cases ht : keptTable? ts name with
    | none =>
        rw [ht] at hversions
        generalize keptTable? us name = u at hversions ⊢
        cases hversions
        exact .none
    | some t =>
        rw [ht] at hversions
        generalize keptTable? us name = u at hversions ⊢
        cases hversions with
        | some hversion =>
            exact .some ⟨hversion, fun hne => absurd (Assembler.name_of_keptTable? ht) hne⟩
  · rw [h.others name hname]
    cases keptTable? us name with
    | none => exact .none
    | some u => exact .some ⟨.refl u, fun _ => rfl⟩

/-- A reading with one more table differs at that table from the same reading with another
version of it. -/
theorem Variant.differAt (h : Variant t u) (ts : List Table) :
    DifferAt t.name (ts ++ [t]) (ts ++ [u]) := by
  have hkept : ∀ (last : Table) (name : String), keptTable? (ts ++ [last]) name =
      if last.name = name then some last else keptTable? ts name := by
    intro last name
    rw [keptTable?, List.reverse_append, List.reverse_singleton, List.singleton_append,
      List.find?_cons]
    by_cases hname : last.name = name
    · rw [if_pos hname, beq_iff_eq.mpr hname]
    · rw [if_neg hname, beq_eq_false_iff_ne.mpr hname]
      rfl
  refine ⟨fun name hname => ?_, ?_⟩
  · rw [hkept, hkept, if_neg hname.symm, if_neg (h.name ▸ hname.symm)]
  · rw [hkept, hkept, if_pos rfl, if_pos h.name.symm]
    exact .some h

end Versions

section Reading

variable {f : String} {ts us : List Table}

/-- Two readings that differ at one table have the same names. -/
theorem DifferAt.names (h : DifferAt f ts us) :
    Scope.sortedDistinct (ts.map (·.name)) = Scope.sortedDistinct (us.map (·.name)) := by
  have hsubset : ∀ {xs ys : List Table}, DifferAt f xs ys →
      ∀ name ∈ xs.map (·.name), name ∈ ys.map (·.name) := by
    intro xs ys hxy name hname
    obtain ⟨table, htable⟩ := Assembler.keptTable?_isSome hname
    have hkept := hxy.counterparts name
    rw [htable] at hkept
    cases hother : keptTable? ys name with
    | none =>
        rw [hother] at hkept
        cases hkept
    | some other =>
        exact List.mem_map.mpr
          ⟨other, Assembler.mem_of_keptTable? hother, Assembler.name_of_keptTable? hother⟩
  exact Scope.sortedDistinct_congr fun name => ⟨hsubset h name, hsubset h.symm name⟩

/-- Two readings that differ at one table, taken by name, have counterparts side by side. -/
theorem counterparts_tablesByName (h : DifferAt f ts us) :
    List.Forall₂ (Counterpart f) (Assembler.tablesByName ts) (Assembler.tablesByName us) := by
  have hall : ∀ names : List String, List.Forall₂ (Counterpart f)
      (names.filterMap (keptTable? ts)) (names.filterMap (keptTable? us)) := by
    intro names
    induction names with
    | nil => exact List.Forall₂.nil
    | cons name names ih =>
        have hkept := h.counterparts name
        rw [List.filterMap_cons, List.filterMap_cons]
        generalize keptTable? ts name = t at hkept ⊢
        generalize keptTable? us name = u at hkept ⊢
        cases hkept with
        | none => exact ih
        | some hkept => exact List.Forall₂.cons hkept ih
  have hnames := hall (Scope.sortedDistinct (ts.map (·.name)))
  rw [h.names] at hnames
  have hts : Assembler.tablesByName ts =
      (Scope.sortedDistinct (us.map (·.name))).filterMap (keptTable? ts) := by
    rw [← h.names]
    rfl
  rw [hts]
  exact hnames

end Reading

section Runs

variable {a : Assembler} {typeNames : List (String × String)}
variable {f : String} {ts us : List Table} {t u : Table}

theorem tableNamed?_of_counterparts (h : List.Forall₂ (Counterpart f) ts us) (name : String) :
    Option.Rel (Counterpart f) (tableNamed? ts name) (tableNamed? us name) := by
  refine find?_of_forall₂ h fun t u hpair => ?_
  rw [hpair.variant.name]

/-- A foreign key is checked alike against counterparts: the check reads their name, their
primary key and their indexes. -/
theorem targetColumns_of_counterparts
    (h : List.Forall₂ (Counterpart f) ts us) (key : ForeignKey) (source : String) :
    targetColumns key source (tableNamed? ts key.targetTable) =
      targetColumns key source (tableNamed? us key.targetTable) := by
  have htarget := tableNamed?_of_counterparts h key.targetTable
  generalize tableNamed? ts key.targetTable = target at htarget ⊢
  generalize tableNamed? us key.targetTable = target' at htarget ⊢
  cases htarget with
  | none => rfl
  | some hpair =>
      simp only [targetColumns, hpair.variant.primaryKey, hpair.variant.name,
        hpair.variant.indexes]

theorem validateKeys_of_counterparts
    (h : List.Forall₂ (Counterpart f) ts us) (table : Table) :
    validateKeys table ts = validateKeys table us := by
  simp only [validateKeys, targetColumns_of_counterparts h]

/-- One table gets the same columns in both runs, or fails alike. -/
theorem extract_of_counterparts
    (h : List.Forall₂ (Counterpart f) ts us) (table : Table) :
    a.extract typeNames ts table = a.extract typeNames us table := by
  rw [Assembler.extract, Assembler.extract, validateKeys_of_counterparts h]

/-- The enum types of a table are named after the columns that it declares values for. -/
theorem mem_enumTypeCandidates {n : Normalizer} {pair : String × String} :
    pair ∈ enumTypeCandidates n t ↔
      ∃ column, t.columns.any (·.name == column) = true ∧ Declares t column ∧
        pair = (enumScopeKey t.name column, n.enumTypeName t.name column) := by
  rw [enumTypeCandidates, List.mem_map]
  constructor
  · rintro ⟨values, hvalues, rfl⟩
    obtain ⟨hmem, hconsidered⟩ := List.mem_filter.mp (List.mem_mergeSort.mp hvalues)
    obtain ⟨hcolumn, hsome⟩ := Bool.and_eq_true_iff.mp hconsidered
    exact ⟨values.column, hcolumn, ⟨values, hmem, rfl, by simpa using hsome⟩, rfl⟩
  · rintro ⟨column, hcolumn, ⟨values, hmem, rfl, hsome⟩, rfl⟩
    have hconsidered : isDeclaredColumn t values && !values.values.isEmpty :=
      Bool.and_eq_true_iff.mpr ⟨hcolumn, by simpa using hsome⟩
    exact ⟨values, List.mem_mergeSort.mpr (List.mem_filter.mpr ⟨hmem, hconsidered⟩), rfl⟩

theorem Variant.mem_enumTypeCandidates (h : Variant t u) (n : Normalizer) (pair : String × String) :
    pair ∈ enumTypeCandidates n t ↔ pair ∈ enumTypeCandidates n u := by
  simp only [Model.mem_enumTypeCandidates, h.columns, h.name, h.declares]

/-- The types of both runs get the same names, or neither run finds names for them. -/
theorem runTypeNames_of_counterparts
    (h : List.Forall₂ (Counterpart f) ts us) {candidates : List (String × String)}
    (hcandidates : a.typeCandidates ts = .ok candidates) :
    ∃ candidates', a.typeCandidates us = .ok candidates' ∧
      Assembler.runTypeNames candidates = Assembler.runTypeNames candidates' := by
  have htotal : ∃ candidates', a.typeCandidates us = .ok candidates' := by
    refine Assembler.typeCandidates_finishes_iff.mpr fun u hu => ?_
    obtain ⟨t, ht, hpair⟩ := exists_of_mem_right h hu
    exact hpair.variant.name ▸ Assembler.typeCandidates_finishes_iff.mp ⟨_, hcandidates⟩ t ht
  obtain ⟨candidates', hcandidates'⟩ := htotal
  refine ⟨candidates', hcandidates', ?_⟩
  rw [Assembler.runTypeNames, Assembler.runTypeNames, Scope.assign_congr fun pair => ?_]
  rw [mem_typeCandidates hcandidates, mem_typeCandidates hcandidates']
  constructor
  · rintro ⟨t, ht, hpart⟩
    obtain ⟨u, hu, hpair⟩ := exists_of_mem_left h ht
    rw [hpair.variant.name, hpair.variant.mem_enumTypeCandidates] at hpart
    exact ⟨u, hu, hpart⟩
  · rintro ⟨u, hu, hpart⟩
    obtain ⟨t, ht, hpair⟩ := exists_of_mem_right h hu
    rw [← hpair.variant.name, ← hpair.variant.mem_enumTypeCandidates] at hpart
    exact ⟨t, ht, hpart⟩

/-- The tables of another name are the same. -/
theorem filter_of_counterparts
    (h : List.Forall₂ (Counterpart f) ts us) {name : String} (hname : name ≠ f) :
    ts.filter (·.name == name) = us.filter (·.name == name) := by
  induction h with
  | nil => rfl
  | @cons t u ts us hfirst _ ih =>
      by_cases htable : t.name = name
      · obtain rfl := hfirst.same (htable ▸ hname)
        rw [List.filter_cons, List.filter_cons, ih]
      · have hfirst' : (t.name == name) = false := beq_eq_false_iff_ne.mpr htable
        have hother : (u.name == name) = false := hfirst.variant.name ▸ hfirst'
        rw [List.filter_cons, List.filter_cons, hfirst', hother, ih]
        rfl

/-- What a pass makes of the tables of another name is the same, when it makes of each table
something under its name. -/
theorem filter_filterMap_of_counterparts
    {β : Type} {g : Table → Option β} {key : β → String}
    (h : List.Forall₂ (Counterpart f) ts us) {name : String} (hname : name ≠ f)
    (hkey : ∀ t b, g t = some b → key b = t.name) :
    (ts.filterMap g).filter (key · == name) = (us.filterMap g).filter (key · == name) := by
  have hunder : ∀ tables : List Table, (tables.filterMap g).filter (key · == name) =
      ((tables.filter (·.name == name)).filterMap g).filter (key · == name) := by
    intro tables
    refine filter_filterMap_of_imp fun t _ b hb heq => ?_
    rwa [← hkey t b hb]
  rw [hunder ts, hunder us, filter_of_counterparts h hname]

end Runs

end Model
end TableCast
