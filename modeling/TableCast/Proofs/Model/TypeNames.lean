import TableCast.Proofs.Model.EnumTypes
import TableCast.Proofs.Model.LinkClosure
import TableCast.Proofs.Name.BatchNames
import TableCast.Proofs.Name.Spelling

/-!
# The type names of a run

The types of all tables get their names in one batch, so two types share a name exactly when
they share a key.  The key of a table is its name, the key of an enum type is made of table
and column with a dot in between, and a dot in a table name can make two keys equal.

**Results.**
* `mem_typeCandidates`: which keys and preferred names a run collects.
* `typeNames_of_extract`, `typeNames_of_mem`: a table gives its types the names of their keys.
* `nodup_typeNames_iff`: type names are distinct exactly when their keys are.
* `nodup_typeNames_of_plain`: they are when no table name has a dot.
-/

namespace TableCast
namespace Model

open Name Schema Fallible

/-- The names of the types of an entity: its own and those of its enum types. -/
def Entity.typeNames (e : Entity) : List String :=
  e.typeName :: e.enums.map (·.typeName)

/-- The keys of the types of an entity among the types of a run. -/
def Entity.typeKeys (e : Entity) : List String :=
  e.name :: e.enums.map fun d => enumScopeKey e.name d.column

section Candidates

variable {a : Assembler} {tables : List Table} {candidates : List (String × String)}

/-- The candidates of a run are those of its tables and of their considered value lists. -/
theorem mem_typeCandidates
    (h : a.typeCandidates tables = .ok candidates) (pair : String × String) :
    pair ∈ candidates ↔
      ∃ table ∈ tables, (∃ typeName, a.normalizer.typeName table.name = .ok typeName ∧
          pair = (table.name, typeName)) ∨
        (a.emitEnums = true ∧ pair ∈ enumTypeCandidates a.normalizer table) := by
  obtain ⟨perTable, hperTable, hflat⟩ := bind_eq_ok.mp h
  obtain rfl := pure_eq_ok.mp hflat
  have hall := mapM_eq_ok.mp hperTable
  -- The induction is on the tables together with what each of them adds.
  clear hperTable hflat h
  induction hall with
  | nil => simp
  | @cons table pairs tables perTable hfirst _ ih =>
      obtain ⟨typeName, htype, hpairs⟩ := bind_eq_ok.mp hfirst
      obtain rfl := pure_eq_ok.mp hpairs
      have hpart : pair ∈ (table.name, typeName) ::
          (if a.emitEnums then enumTypeCandidates a.normalizer table else []) ↔
          (∃ typeName, a.normalizer.typeName table.name = .ok typeName ∧
            pair = (table.name, typeName)) ∨
          (a.emitEnums = true ∧ pair ∈ enumTypeCandidates a.normalizer table) := by
        rw [List.mem_cons, htype]
        cases a.emitEnums with
        | true => simp
        | false => simp
      rw [List.flatten_cons, List.mem_append]
      refine (or_congr hpart ih).trans ?_
      simp only [List.mem_cons, exists_eq_or_imp]

theorem name_mem_keys
    (h : a.typeCandidates tables = .ok candidates) {table : Table} (htable : table ∈ tables) :
    table.name ∈ keys candidates := by
  obtain ⟨perTable, hperTable, -⟩ := bind_eq_ok.mp h
  obtain ⟨pairs, -, hpairs⟩ := exists_of_mem_left (mapM_eq_ok.mp hperTable) htable
  obtain ⟨typeName, htype, -⟩ := bind_eq_ok.mp hpairs
  have hpair : (table.name, typeName) ∈ candidates :=
    (mem_typeCandidates h _).mpr ⟨table, htable, Or.inl ⟨typeName, htype, rfl⟩⟩
  exact List.mem_map.mpr ⟨_, hpair, rfl⟩

theorem enumScopeKey_mem_keys
    (h : a.typeCandidates tables = .ok candidates) {table : Table} (htable : table ∈ tables)
    (hemit : a.emitEnums = true) {values : ValueList} (hvalues : values ∈ consideredLists table) :
    enumScopeKey table.name values.column ∈ keys candidates := by
  have hpair : (enumScopeKey table.name values.column,
      a.normalizer.enumTypeName table.name values.column) ∈ candidates :=
    (mem_typeCandidates h _).mpr
      ⟨table, htable, Or.inr ⟨hemit, List.mem_map.mpr ⟨values, hvalues, rfl⟩⟩⟩
  exact List.mem_map.mpr ⟨_, hpair, rfl⟩

/-- No preferred name is empty. -/
theorem base_ne_empty
    (h : a.typeCandidates tables = .ok candidates) {raw base : String}
    (hpair : (raw, base) ∈ candidates) :
    base ≠ "" := by
  obtain ⟨table, -, ⟨typeName, htype, heq⟩ | ⟨-, henum⟩⟩ := (mem_typeCandidates h _).mp hpair
  · rw [(Prod.mk.inj heq).2]
    exact typeName_ne_empty htype
  · obtain ⟨values, -, heq⟩ := List.mem_map.mp henum
    rw [← (Prod.mk.inj heq).2]
    exact enumTypeName_ne_empty _ _

/-- Every key of a run gets a name, and it is not empty. -/
theorem lookup?_runTypeNames
    (h : a.typeCandidates tables = .ok candidates) {raw : String} (hraw : raw ∈ keys candidates) :
    ∃ name, lookup? (Assembler.runTypeNames candidates) raw = some name ∧ name ≠ "" := by
  obtain ⟨⟨r, base⟩, hpair, rfl⟩ := List.mem_map.mp hraw
  obtain ⟨b, rest, hb, hname⟩ := Scope.lookup?_assign {} hpair
  refine ⟨b ++ rest, hname, fun hempty => base_ne_empty h hb ?_⟩
  exact (String.append_eq_empty_iff.mp hempty).1

/-- The enum type of a column has the name of its key. -/
theorem enumTypeNameFor_eq
    (h : a.typeCandidates tables = .ok candidates) {table column : String}
    (hkey : enumScopeKey table column ∈ keys candidates) :
    enumTypeNameFor a.normalizer (Assembler.runTypeNames candidates) table column =
      (lookup? (Assembler.runTypeNames candidates) (enumScopeKey table column)).getD "" := by
  obtain ⟨name, hname, hne⟩ := lookup?_runTypeNames h hkey
  have hempty : name.isEmpty = false := by
    rw [Bool.eq_false_iff, ne_eq, String.isEmpty_iff]
    exact hne
  rw [enumTypeNameFor, hname]
  simp [hempty]

end Candidates

section Tables

variable {a : Assembler} {tables : List Table} {candidates : List (String × String)}
variable {table : Table} {e : Entity}

theorem builtFrom_of_tableEnums
    {typeNames : List (String × String)} {enums : List EnumType}
    (h : a.tableEnums typeNames table = .ok enums) :
    (a.emitEnums = true ∧
      BuiltFrom a.normalizer typeNames table (consideredLists table) enums) ∨
    (a.emitEnums = false ∧ enums = []) := by
  rw [Assembler.tableEnums] at h
  cases hemit : a.emitEnums with
  | true =>
      rw [hemit] at h
      exact Or.inl ⟨rfl, enumTypes_ok h⟩
  | false =>
      rw [hemit] at h
      exact Or.inr ⟨rfl, (Except.ok.inj h).symm⟩

/-- A table gives its types the names that the run gives to their keys. -/
theorem typeNames_of_extract
    (h : a.typeCandidates tables = .ok candidates) (htable : table ∈ tables)
    (hextract : (a.extract (Assembler.runTypeNames candidates) tables table).2 = .ok e) :
    e.typeKeys ⊆ keys candidates ∧
    e.typeNames = e.typeKeys.map fun key =>
      (lookup? (Assembler.runTypeNames candidates) key).getD "" := by
  obtain ⟨-, enums, columns, henums, -, rfl⟩ := Assembler.extract_ok hextract
  have hkey : ∀ d ∈ enums, enumScopeKey table.name d.column ∈ keys candidates ∧
      d.typeName = (lookup? (Assembler.runTypeNames candidates)
        (enumScopeKey table.name d.column)).getD "" := by
    intro d hd
    rcases builtFrom_of_tableEnums henums with ⟨hemit, hbuilt⟩ | ⟨-, hnil⟩
    · obtain ⟨values, hvalues, hof⟩ := hbuilt.sound d hd
      have hmem := enumScopeKey_mem_keys h htable hemit hvalues
      rw [hof.column, hof.typeName, enumTypeNameFor_eq h hmem]
      exact ⟨hmem, rfl⟩
    · rw [hnil] at hd
      exact absurd hd List.not_mem_nil
  constructor
  · intro key hmem
    rcases List.mem_cons.mp hmem with rfl | hmem
    · exact name_mem_keys h htable
    · obtain ⟨d, hd, rfl⟩ := List.mem_map.mp hmem
      exact (hkey d hd).1
  · rw [Entity.typeNames, Entity.typeKeys, List.map_cons, List.map_map]
    congr 1
    exact List.map_congr_left fun d hd => (hkey d hd).2

end Tables

section Runs

variable {a : Assembler} {names : List String} {tables : List Table}
variable {failures : List (String × String)} {result : Assembly} {table : Table} {e : Entity}

/-- The types of an entity have the names that the batch of the run gives to their keys. -/
theorem typeNames_of_mem
    (h : a.assemble names tables failures = .ok result) :
    ∃ candidates, a.typeCandidates (Assembler.tablesByName tables) = .ok candidates ∧
      ∀ e ∈ result.entities, e.typeKeys ⊆ keys candidates ∧
        e.typeNames = e.typeKeys.map fun key =>
          (lookup? (Assembler.runTypeNames candidates) key).getD "" := by
  obtain ⟨candidates, hcandidates, hall⟩ := Assembler.exists_linkedFrom h
  refine ⟨candidates, hcandidates, fun e he => ?_⟩
  obtain ⟨table, source, pair, hfrom, rfl⟩ := hall e he
  have hsource := typeNames_of_extract hcandidates hfrom.table_mem hfrom.extract
  rw [hfrom.entity]
  exact hsource

/-- The types of an assembly have the names that one batch gives to their keys. -/
theorem typeNames_eq_map
    (h : a.assemble names tables failures = .ok result) :
    ∃ candidates, a.typeCandidates (Assembler.tablesByName tables) = .ok candidates ∧
      result.entities.flatMap Entity.typeKeys ⊆ keys candidates ∧
      result.entities.flatMap Entity.typeNames =
        (result.entities.flatMap Entity.typeKeys).map fun key =>
          (lookup? (Assembler.runTypeNames candidates) key).getD "" := by
  obtain ⟨candidates, hcandidates, heach⟩ := typeNames_of_mem h
  refine ⟨candidates, hcandidates, ?_, ?_⟩
  · intro key hkey
    obtain ⟨e, he, hkey⟩ := List.mem_flatMap.mp hkey
    exact (heach e he).1 hkey
  · rw [List.map_flatMap]
    exact List.flatMap_congr fun e he => (heach e he).2

/-- The enum types of an entity were built from the value lists of its table. -/
theorem builtFrom_of_mem
    (h : a.assemble names tables failures = .ok result) (he : e ∈ result.entities) :
    ∃ table typeNames, keptTable? tables e.name = some table ∧
      ((a.emitEnums = true ∧
          BuiltFrom a.normalizer typeNames table (consideredLists table) e.enums) ∨
        (a.emitEnums = false ∧ e.enums = [])) := by
  obtain ⟨candidates, -, hall⟩ := Assembler.exists_linkedFrom h
  obtain ⟨table, source, pair, hfrom, rfl⟩ := hall e he
  obtain ⟨henums, -, -⟩ := hfrom.parts
  rw [hfrom.name]
  exact ⟨table, _, Assembler.mem_tablesByName.mp hfrom.table_mem, builtFrom_of_tableEnums henums⟩

theorem nodup_enumColumns
    (h : a.assemble names tables failures = .ok result) (he : e ∈ result.entities) :
    (e.enums.map (·.column)).Nodup := by
  obtain ⟨table, typeNames, -, ⟨-, hbuilt⟩ | ⟨-, hnil⟩⟩ := builtFrom_of_mem h he
  · exact hbuilt.distinct
  · rw [hnil]
    exact List.nodup_nil

/-- With enum types emitted, every considered value list has its key among those of the
entity. -/
theorem enumScopeKey_mem_typeKeys
    (h : a.assemble names tables failures = .ok result) (he : e ∈ result.entities)
    (hkept : keptTable? tables e.name = some table) (hemit : a.emitEnums = true)
    {values : ValueList} (hvalues : values ∈ consideredLists table) :
    enumScopeKey e.name values.column ∈ e.typeKeys := by
  obtain ⟨t, typeNames, ht, ⟨-, hbuilt⟩ | ⟨hno, -⟩⟩ := builtFrom_of_mem h he
  · obtain rfl := Option.some.inj (hkept.symm.trans ht)
    obtain ⟨d, hd, hcolumn⟩ :=
      List.mem_map.mp ((hbuilt.columns values.column).mpr (List.mem_map_of_mem hvalues))
    rw [← hcolumn]
    exact List.mem_cons_of_mem _ (List.mem_map.mpr ⟨d, hd, rfl⟩)
  · rw [hemit] at hno
    cases hno

end Runs

section Keys

variable {a : Assembler} {names : List String} {tables : List Table}
variable {failures : List (String × String)} {result : Assembly} {e : Entity}

theorem enumScopeKey_injective (table : String) : Function.Injective (enumScopeKey table) := by
  intro c d h
  apply String.toList_injective
  have hlist := congrArg String.toList h
  simpa [enumScopeKey, String.toList_append] using hlist

theorem enumScopeKey_ne (table column : String) : table ≠ enumScopeKey table column := by
  intro h
  have hlength := congrArg (fun s => s.toList.length) h
  simp only [enumScopeKey, String.toList_append, List.length_append] at hlength
  have hdot : ".".toList.length = 1 := rfl
  omega

/-- The keys of an entity are distinct among themselves. -/
theorem nodup_typeKeys
    (h : a.assemble names tables failures = .ok result) (he : e ∈ result.entities) :
    e.typeKeys.Nodup := by
  rw [Entity.typeKeys, List.nodup_cons]
  constructor
  · intro hmem
    obtain ⟨d, -, hkey⟩ := List.mem_map.mp hmem
    exact enumScopeKey_ne e.name d.column hkey.symm
  · have hmap := (nodup_enumColumns h he).map (enumScopeKey_injective e.name)
    rwa [List.map_map] at hmap

/-- Without a dot in the table name, the table is the part of a key in front of the dot. -/
theorem takeWhile_of_mem_typeKeys
    (hplain : '.' ∉ e.name.toList) {key : String} (hkey : key ∈ e.typeKeys) :
    key.toList.takeWhile (· != '.') = e.name.toList := by
  have hall : ∀ c ∈ e.name.toList, (c != '.') = true := by
    intro c hc
    exact bne_iff_ne.mpr fun heq => hplain (heq ▸ hc)
  rcases List.mem_cons.mp hkey with rfl | hmem
  · exact List.takeWhile_eq_self_iff.mpr hall
  · obtain ⟨d, -, rfl⟩ := List.mem_map.mp hmem
    have hsplit : (enumScopeKey e.name d.column).toList =
        e.name.toList ++ '.' :: d.column.toList := by
      simp [enumScopeKey, String.toList_append]
    rw [hsplit, List.takeWhile_append_of_pos hall]
    simp

theorem nodup_typeKeys_of_plain
    (h : a.assemble names tables failures = .ok result)
    (hplain : ∀ table ∈ tables, '.' ∉ table.name.toList) :
    (result.entities.flatMap Entity.typeKeys).Nodup := by
  have hentity : ∀ e ∈ result.entities, '.' ∉ e.name.toList := by
    intro e he
    obtain ⟨table, hkept⟩ := exists_keptTable h he
    rw [← Assembler.name_of_keptTable? hkept]
    exact hplain table (Assembler.mem_of_keptTable? hkept)
  rw [List.nodup_flatMap]
  refine ⟨fun e he => nodup_typeKeys h he, ?_⟩
  refine (List.pairwise_map.mp (nodup_names_entities h)).imp_of_mem ?_
  intro d e hd he hne key hkd hke
  apply hne
  apply String.toList_injective
  rw [← takeWhile_of_mem_typeKeys (hentity d hd) hkd, takeWhile_of_mem_typeKeys (hentity e he) hke]

/-- Two entities that share a key have repeated keys. -/
theorem not_nodup_typeKeys
    {entities : List Entity} {d : Entity} {key : String}
    (hd : d ∈ entities) (he : e ∈ entities) (hne : d.name ≠ e.name)
    (hkd : key ∈ d.typeKeys) (hke : key ∈ e.typeKeys) :
    ¬ (entities.flatMap Entity.typeKeys).Nodup := by
  intro hnodup
  have hpairs := (List.nodup_flatMap.mp hnodup).2
  have hsymm : Std.Symm (Function.onFun List.Disjoint Entity.typeKeys) :=
    ⟨fun _ _ hdisjoint => hdisjoint.symm⟩
  have hdisjoint := hpairs.forall hd he fun heq => hne (congrArg Entity.name heq)
  exact hdisjoint hkd hke

end Keys

section Distinct

variable {a : Assembler} {names : List String} {tables : List Table}
variable {failures : List (String × String)} {result : Assembly}

/-- The type names of an assembly are pairwise distinct exactly when the keys of its types
are. -/
theorem nodup_typeNames_iff
    (h : a.assemble names tables failures = .ok result) :
    (result.entities.flatMap Entity.typeNames).Nodup ↔
      (result.entities.flatMap Entity.typeKeys).Nodup := by
  obtain ⟨candidates, -, hkeys, hnames⟩ := typeNames_eq_map h
  rw [hnames]
  constructor
  · exact List.Nodup.of_map _
  · exact fun hnodup => Scope.nodup_map_assigned {} hnodup hkeys

/-- A table with an enum type. -/
def listed : Table :=
  { name := "a"
    columns := [{ name := "b", nativeType := "text" }]
    valueLists := [{ column := "b", values := ["x"] }] }

/-- A table whose name is the key of that enum type. -/
def dotted : Table :=
  { name := "a.b", columns := [{ name := "c", nativeType := "text" }] }

/-- An assembler for Python with enum types. -/
def forPython : Assembler :=
  { dialect := .postgresql, normalizer := { reserved := pythonReserved } }

theorem considered_listed : consideredLists listed = [{ column := "b", values := ["x"] }] := by
  simp [consideredLists, listed, isDeclaredColumn]

theorem considered_dotted : consideredLists dotted = [] := by
  simp [consideredLists, dotted]

/-- A table and its enum type have two names. -/
theorem nodup_typeNames_of_listed :
    ∃ result, forPython.assemble ["a"] [listed] [] = .ok result ∧
      (result.entities.flatMap Entity.typeNames).Nodup := by
  have hsources : ∀ table ∈ [listed], ∀ key ∈ table.foreignKeys, key.sourceColumns ≠ [] := by
    decide
  obtain ⟨result, h⟩ := Assembler.assemble_total (a := forPython) (typeName_total rfl) hsources
    ["a"] []
  exact ⟨result, h, (nodup_typeNames_iff h).mpr (nodup_typeKeys_of_plain h (by decide))⟩

/-- A dot in a table name lets a table and an enum type share a key, and so a type name. -/
theorem typeNames_of_dotted :
    ([listed, dotted].map (·.name)).Nodup ∧
    (∀ table ∈ [listed, dotted], (table.valueLists.map (·.column)).Nodup) ∧
    forPython.emitEnums = true ∧
    ∃ result, forPython.assemble ["a", "a.b"] [listed, dotted] [] = .ok result ∧
      ¬ (result.entities.flatMap Entity.typeNames).Nodup := by
  have hsources : ∀ table ∈ [listed, dotted], ∀ key ∈ table.foreignKeys,
      key.sourceColumns ≠ [] := by decide
  obtain ⟨result, h⟩ := Assembler.assemble_total (a := forPython) (typeName_total rfl) hsources
    ["a", "a.b"] []
  have hlisted : ∀ typeNames, ∃ e, (forPython.extract typeNames
      (Assembler.tablesByName [listed, dotted]) listed).2 = .ok e := by
    intro typeNames
    rw [Assembler.extract, Assembler.tableEnums, enumTypes, considered_listed]
    exact ⟨_, rfl⟩
  have hdotted : ∀ typeNames, ∃ e, (forPython.extract typeNames
      (Assembler.tablesByName [listed, dotted]) dotted).2 = .ok e := by
    intro typeNames
    rw [Assembler.extract, Assembler.tableEnums, enumTypes, considered_dotted]
    exact ⟨_, rfl⟩
  obtain ⟨d, hd, hdname⟩ := Assembler.exists_entity h rfl hlisted
  obtain ⟨e, he, hename⟩ := Assembler.exists_entity h rfl hdotted
  refine ⟨by decide, by decide, rfl, result, h, fun hnodup => ?_⟩
  obtain ⟨candidates, -, -, hnames⟩ := typeNames_eq_map h
  rw [hnames] at hnodup
  have hshared : "a.b" ∈ d.typeKeys := by
    have hkey := enumScopeKey_mem_typeKeys h hd (hdname ▸ rfl) rfl
      (considered_listed ▸ List.mem_singleton_self _)
    rwa [hdname] at hkey
  have hne : d.name ≠ e.name := by
    rw [hdname, hename]
    decide
  have hown : "a.b" ∈ e.typeKeys := by
    rw [Entity.typeKeys, hename]
    exact List.mem_cons_self ..
  exact not_nodup_typeKeys hd he hne hshared hown hnodup.of_map

/-- The type names of an assembly are pairwise distinct when no table name has a dot: no two keys of
types are equal then, whatever the columns are named. -/
theorem nodup_typeNames_of_plain
    (h : a.assemble names tables failures = .ok result)
    (hplain : ∀ table ∈ tables, '.' ∉ table.name.toList) :
    (result.entities.flatMap Entity.typeNames).Nodup := by
  obtain ⟨candidates, -, hkeys, hnames⟩ := typeNames_eq_map h
  rw [hnames]
  exact Scope.nodup_map_assigned {} (nodup_typeKeys_of_plain h hplain) hkeys

end Distinct

end Model
end TableCast
