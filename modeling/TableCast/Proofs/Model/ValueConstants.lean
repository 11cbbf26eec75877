import TableCast.Proofs.Model.MemberNames

/-!
# Value constants

Without enum types, a column with a closed value list gets one constant for each of its values.
The name of a constant is spelled from the column and the value together and is made unique among
those of its column.  The class of a table declares the constants of all its columns, and the
spelling does not show where the column ends, so two columns may have constants of one name.

**Results.**
* `values_valueConstants`, `nodup_names_valueConstants`: a value list has one constant for each of
  its values, in order, under distinct names.
* `constants_of_table`: the constants of a class, and when their names are distinct.
* `constantNames_of_preferred`: they are as preferred when the preferred ones are distinct.
* `constants_of_joined`: two columns with constants of one name.
-/

namespace TableCast
namespace Model

open Name Schema Fallible Reordering

/-- The names of the constants of a column. -/
def constantNames (c : Column) : List String := c.valueConstants.map (·.1)

/-- The values that are declared for a column, in order and each once. -/
def declaredValues (table : Table) (column : String) : List String :=
  ((declaredList? table column).map fun values => values.values.eraseDups).getD []

/-- The name that the constant of a value should have. -/
def preferredConstant (column value : String) : String := enumCase (column ++ "_" ++ value)

section Lists

variable {values : ValueList}

/-- A value list has one constant for each of its values, in order of appearance. -/
theorem values_valueConstants (values : ValueList) :
    (valueConstants values).map (·.2) = values.values.eraseDups := by
  rw [valueConstants, List.map_map]
  exact List.map_id _

/-- The constants of a value list have distinct names. -/
theorem nodup_names_valueConstants (values : ValueList) :
    ((valueConstants values).map (·.1)).Nodup := by
  rw [valueConstants, List.map_map]
  refine Scope.nodup_map_assigned {} (nodup_eraseDups values.values) fun value hvalue => ?_
  rw [keys, List.map_map]
  exact List.mem_map.mpr ⟨value, List.mem_eraseDups.mp hvalue, rfl⟩

/-- Constants have the names that they should have when these are distinct. -/
theorem names_valueConstants_of_preferred
    (h : (values.values.eraseDups.map (preferredConstant values.column)).Nodup) :
    (valueConstants values).map (·.1) =
      values.values.eraseDups.map (preferredConstant values.column) := by
  rw [valueConstants, List.map_map]
  refine List.map_congr_left fun value hvalue => ?_
  have hinj : ∀ own ∈ values.values, ∀ other ∈ values.values,
      preferredConstant values.column own = preferredConstant values.column other → own = other :=
    fun own hown other hother heq =>
      List.inj_on_of_nodup_map h (List.mem_eraseDups.mpr hown) (List.mem_eraseDups.mpr hother) heq
  have hlookup := Scope.lookup?_assign_of_preferred hinj (List.mem_eraseDups.mp hvalue)
  simp only [preferredConstant] at hlookup
  show (lookup? _ value).getD "" = preferredConstant values.column value
  rw [hlookup]
  rfl

end Lists

section Columns

variable {a : Assembler} {table : Table} {fieldNames : List (String × String)}
variable {raw : Schema.Column} {c : Column}

/-- Without enum types a column has the constants of the list that is declared for it. -/
theorem valueConstants_of_describeColumn
    (h : (a.describeColumn table [] fieldNames raw).2 = .ok c) :
    c.valueConstants = ((declaredList? table raw.name).map valueConstants).getD [] := by
  obtain ⟨value, -, rfl⟩ := map_eq_ok.mp h
  dsimp only [List.find?_nil, typeColumn]
  cases hdeclared : declaredList? table raw.name with
  | none =>
      dsimp only
      split_ifs
      · rfl
      · rfl
  | some values =>
      dsimp only [Option.map_some, Option.getD_some]
      split_ifs with hempty
      · rw [valueConstants, List.isEmpty_iff.mp hempty]
        rfl
      · rfl

theorem column_of_declaredList? {values : ValueList} {column : String}
    (h : declaredList? table column = some values) : values.column = column := by
  simpa using List.find?_some h

/-- The constants of a column list its declared values, each once and in order of appearance, under
distinct names. -/
theorem constants_of_describeColumn
    (h : (a.describeColumn table [] fieldNames raw).2 = .ok c) :
    c.valueConstants.map (·.2) = declaredValues table raw.name ∧ (constantNames c).Nodup := by
  rw [constantNames, valueConstants_of_describeColumn h, declaredValues]
  cases declaredList? table raw.name with
  | none => exact ⟨rfl, List.nodup_nil⟩
  | some values =>
      exact ⟨values_valueConstants values, nodup_names_valueConstants values⟩

theorem constantNames_of_describeColumn
    (h : (a.describeColumn table [] fieldNames raw).2 = .ok c)
    (hpreferred : ((declaredValues table raw.name).map (preferredConstant raw.name)).Nodup) :
    constantNames c = (declaredValues table raw.name).map (preferredConstant raw.name) := by
  rw [declaredValues] at hpreferred ⊢
  rw [constantNames, valueConstants_of_describeColumn h]
  cases hdeclared : declaredList? table raw.name with
  | none => rfl
  | some values =>
      rw [hdeclared, ← column_of_declaredList? hdeclared] at hpreferred
      rw [← column_of_declaredList? hdeclared]
      exact names_valueConstants_of_preferred hpreferred

end Columns

section Classes

variable {a : Assembler} {names : List String} {tables : List Table}
variable {failures : List (String × String)} {result : Assembly} {e : Entity}

/-- Without enum types, the columns of an entity are those of its table described. -/
theorem exists_described_of_mem
    (h : a.assemble names tables failures = .ok result) (hoff : a.emitEnums = false)
    (he : e ∈ result.entities) :
    ∃ table, keptTable? tables e.name = some table ∧
      List.Forall₂ (fun raw c => (a.describeColumn table [] (a.fieldNames table) raw).2 = .ok c)
        table.columns e.columns := by
  obtain ⟨candidates, -, hall⟩ := Assembler.exists_linkedFrom h
  obtain ⟨table, source, pair, hfrom, rfl⟩ := hall e he
  obtain ⟨henums, hdescribed, -⟩ := hfrom.parts
  rw [Assembler.tableEnums, hoff, if_neg Bool.false_ne_true] at henums
  rw [← Except.ok.inj henums] at hdescribed
  exact ⟨table, hfrom.name ▸ Assembler.mem_tablesByName.mp hfrom.table_mem,
    Assembler.describeColumns_ok hdescribed⟩

/-- **The constants of a class.**  Without enum types, the constants of each column list its
declared values, each once and in order of appearance, under distinct names; and the names of all
constants of the class are distinct exactly when no two columns have one in common. -/
theorem constants_of_table
    (h : a.assemble names tables failures = .ok result) (hoff : a.emitEnums = false)
    (hcolumns : ∀ table ∈ tables, (table.columns.map (·.name)).Nodup) (he : e ∈ result.entities) :
    (∃ table, keptTable? tables e.name = some table ∧
      List.Forall₂ (fun raw c => c.name = raw.name ∧
        c.valueConstants.map (·.2) = declaredValues table raw.name ∧ (constantNames c).Nodup)
        table.columns e.columns) ∧
    ((e.columns.flatMap constantNames).Nodup ↔
      ∀ c ∈ e.columns, ∀ d ∈ e.columns, ∀ name ∈ constantNames c, name ∈ constantNames d →
        c.name = d.name) := by
  obtain ⟨table, hkept, hdescribed⟩ := exists_described_of_mem h hoff he
  refine ⟨⟨table, hkept, hdescribed.imp fun raw c hc => ?_⟩, ?_⟩
  · exact ⟨(describes_of_describeColumn hc).1.name, constants_of_describeColumn hc⟩
  · refine nodup_flatMap_iff_of_keys ?_ fun c hc => ?_
    · rw [map_name_of_described hdescribed]
      exact hcolumns table (Assembler.mem_of_keptTable? hkept)
    · obtain ⟨raw, -, hraw⟩ := exists_of_mem_right hdescribed hc
      exact (constants_of_describeColumn hraw).2

/-- The constants that the columns of a table should have. -/
def preferredConstants (table : Table) : List String :=
  table.columns.flatMap fun raw =>
    (declaredValues table raw.name).map (preferredConstant raw.name)

/-- The constants of a class have the names that they should have, when these are distinct in every
column. -/
theorem constantNames_of_preferred
    {table : Table} (h : a.assemble names tables failures = .ok result) (hoff : a.emitEnums = false)
    (he : e ∈ result.entities) (hkept : keptTable? tables e.name = some table)
    (hpreferred : ∀ raw ∈ table.columns,
      ((declaredValues table raw.name).map (preferredConstant raw.name)).Nodup) :
    e.columns.flatMap constantNames = preferredConstants table := by
  obtain ⟨t, ht, hdescribed⟩ := exists_described_of_mem h hoff he
  obtain rfl := Option.some.inj (hkept.symm.trans ht)
  refine (flatMap_of_forall₂ hdescribed fun raw hraw c hc => ?_).symm
  exact (constantNames_of_describeColumn hc (hpreferred raw hraw)).symm

/-- A table with two columns that have values to choose from. -/
def stock (first second : ValueList) : Table :=
  { name := "stock"
    columns := [
      { name := first.column, nativeType := "text" },
      { name := second.column, nativeType := "text" }]
    valueLists := [first, second] }

theorem stock_assembled (first second : ValueList) :
    ∃ result, Assembler.withoutEnums.assemble ["stock"] [stock first second] [] = .ok result ∧
      ∃ e ∈ result.entities, e.name = "stock" :=
  Assembler.exists_entity_of_lone (typeName_total rfl) (fun _ h => absurd h List.not_mem_nil)
    fun _ => ⟨_, rfl⟩

/-- Sizes and kinds, with a value that occurs twice. -/
def sizesAndKinds : Table :=
  stock { column := "size", values := ["s", "m", "s"] } { column := "kind", values := ["m"] }

/-- The constants of a table whose columns share a value. -/
theorem constants_of_sizesAndKinds :
    ∃ result, Assembler.withoutEnums.assemble ["stock"] [sizesAndKinds] [] = .ok result ∧
      ∃ e ∈ result.entities,
        e.columns.map (fun c => c.valueConstants.map (·.2)) = [["s", "m"], ["m"]] ∧
        e.columns.flatMap constantNames = ["SIZE_S", "SIZE_M", "KIND_M"] ∧
        ∀ c ∈ e.columns, ∀ d ∈ e.columns, ∀ name ∈ constantNames c, name ∈ constantNames d →
          c.name = d.name := by
  obtain ⟨result, h, e, he, hname⟩ := stock_assembled
    { column := "size", values := ["s", "m", "s"] } { column := "kind", values := ["m"] }
  have hconstants : e.columns.flatMap constantNames = ["SIZE_S", "SIZE_M", "KIND_M"] := by
    have hpreferred : preferredConstants sizesAndKinds = ["SIZE_S", "SIZE_M", "KIND_M"] := by cbv
    rw [← hpreferred]
    exact constantNames_of_preferred h rfl he (Assembler.keptTable?_singleton hname)
      (by decide +kernel)
  obtain ⟨⟨table, hkept, hcolumns⟩, hdistinct⟩ := constants_of_table h rfl (by decide) he
  obtain rfl : sizesAndKinds = table :=
    Option.some.inj ((Assembler.keptTable?_singleton hname).symm.trans hkept)
  have hvalues : e.columns.map (fun c => c.valueConstants.map (·.2)) =
      sizesAndKinds.columns.map fun raw => declaredValues sizesAndKinds raw.name := by
    rw [List.map_eq_flatMap, List.map_eq_flatMap]
    exact (flatMap_of_forall₂ hcolumns fun raw _ c hc => congrArg ([·]) hc.2.1.symm).symm
  refine ⟨result, h, e, he, hvalues.trans (by decide +kernel), hconstants, hdistinct.mp ?_⟩
  rw [hconstants]
  decide

/-- A column and another one whose name goes on like a value of the first. -/
def joined : Table :=
  stock { column := "a", values := ["b_c"] } { column := "a_b", values := ["c"] }

/-- Two columns of one class whose constants have one name. -/
theorem constants_of_joined :
    (joined.columns.map (·.name)).Nodup ∧
    ∃ result, Assembler.withoutEnums.assemble ["stock"] [joined] [] = .ok result ∧
      ∃ e ∈ result.entities, e.columns.flatMap constantNames = ["A_B_C", "A_B_C"] ∧
        ¬ (e.columns.flatMap constantNames).Nodup := by
  obtain ⟨result, h, e, he, hname⟩ := stock_assembled
    { column := "a", values := ["b_c"] } { column := "a_b", values := ["c"] }
  have hconstants : e.columns.flatMap constantNames = ["A_B_C", "A_B_C"] := by
    have hpreferred : preferredConstants joined = ["A_B_C", "A_B_C"] := by cbv
    rw [← hpreferred]
    exact constantNames_of_preferred h rfl he (Assembler.keptTable?_singleton hname)
      (by decide +kernel)
  refine ⟨by decide, result, h, e, he, hconstants, ?_⟩
  rw [hconstants]
  decide

end Classes

end Model
end TableCast
