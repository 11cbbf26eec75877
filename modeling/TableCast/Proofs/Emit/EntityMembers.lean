import TableCast.Proofs.Emit.Accessors
import TableCast.Proofs.Emit.ClassLines
import TableCast.Proofs.Emit.Literals
import TableCast.Proofs.Model.ColumnPairs
import TableCast.Proofs.Model.TypedColumns

/-!
# The properties of a Doctrine entity

The class of an entity declares a property for every column that no association owns, and for every
association whose target is part of the run.  The line in front of a property maps its column or
joins the columns of its foreign key.

What a class declares is read from its lines here, and the reading knows nothing of the entity that
the class was written for.  So what the columns, the associations and the template have decided each
for itself is put together again.

**Results.**
* `declaredProperties_eq`, `mappedColumns_eq`, `joinColumns_eq`: what is read from a class.
* `columnPairs_of_linked`: the pairs of an association whose target is part of the run.
* `entity_maps_every_column`: every column is mapped or joined, over a whole assembly.
-/

namespace TableCast
namespace Emit
namespace Doctrine

open Text Name Model Fallible

section Readers

/-- The start of a line that declares a property. -/
def propertyStart : String := "    private "

/-- The start of a line that maps a column. -/
def columnStart : String := "    #[ORM\\Column(name: "

/-- The start of a line that joins a column. -/
def joinStart : String := "    #[ORM\\JoinColumn(name: "

/-- What stands between the two columns of such a line. -/
def referenceStart : String := ", referencedColumnName: "

/-- The name of the property that a line declares: what stands behind the first dollar sign, as far
as PHP takes it for a name. -/
def property? (line : String) : Option String :=
  (line.toList.dropPrefix? propertyStart.toList).map fun rest =>
    String.ofList (((rest.dropWhile (· != '$')).drop 1).takeWhile isTame)

/-- The column that a line maps. -/
def mappedColumn? (line : String) : Option String := do
  let rest ← line.toList.dropPrefix? columnStart.toList
  let (column, _) ← quotedText? rest
  return column

/-- The column that a line joins, with the column that it references. -/
def joinColumn? (line : String) : Option (String × String) := do
  let rest ← line.toList.dropPrefix? joinStart.toList
  let (column, rest) ← quotedText? rest
  let rest ← rest.dropPrefix? referenceStart.toList
  let (referenced, _) ← quotedText? rest
  return (column, referenced)

/-- The properties that the class of an entity declares, in order. -/
def declaredProperties (context : RenderContext) (e : Entity) : List String :=
  (entityLines context e).filterMap property?

/-- The columns that the class of an entity maps, in order. -/
def mappedColumns (context : RenderContext) (e : Entity) : List String :=
  (entityLines context e).filterMap mappedColumn?

/-- The columns that the class of an entity joins, with those that they reference, in order. -/
def joinColumns (context : RenderContext) (e : Entity) : List (String × String) :=
  (entityLines context e).filterMap joinColumn?

theorem readsBehind_property? : ReadsBehind propertyStart.toList property? where
  nonempty := by decide
  silent line h := by rw [property?, h, Option.map_none]

theorem readsBehind_mappedColumn? : ReadsBehind columnStart.toList mappedColumn? where
  nonempty := by decide
  silent line h := by rw [mappedColumn?, h, Option.bind_eq_bind, Option.bind_none]

theorem readsBehind_joinColumn? : ReadsBehind joinStart.toList joinColumn? where
  nonempty := by decide
  silent line h := by rw [joinColumn?, h, Option.bind_eq_bind, Option.bind_none]

end Readers

section Lines

variable {name type tail : String} {c : Column} {l : Association}

theorem not_mem_of_spells {c : Char} (h : everyText.Spells name) (hc : isTame c = false) :
    c ∉ name.toList := by
  intro hmem
  have htame : isTame c = true := h c hmem
  rw [hc] at htame
  cases htame

/-- A declaration names its property behind the dollar sign. -/
theorem property?_of_declaration
    (htype : '$' ∉ type.toList) (hname : everyText.Spells name)
    (htail : tail.toList.takeWhile isTame = []) :
    property? ("    private " ++ (type ++ (" $" ++ (name ++ tail)))) = some name := by
  have hstart : "    private " = propertyStart := rfl
  have hfront : ∀ c ∈ (type ++ " ").toList, (c != '$') = true := by
    intro c hc
    rw [bne_iff_ne]
    rintro rfl
    rw [String.toList_append, List.mem_append] at hc
    exact hc.elim htype (by decide)
  have hline : (type ++ (" $" ++ (name ++ tail))).toList =
      (type ++ " ").toList ++ '$' :: (name.toList ++ tail.toList) := by
    simp [String.toList_append]
  have hall : ∀ c ∈ name.toList, isTame c = true := hname
  rw [property?, hstart, dropPrefix?_append, Option.map_some, hline,
    List.dropWhile_append_of_pos hfront, List.dropWhile_cons_of_neg (by decide), List.drop_one,
    List.tail_cons, List.takeWhile_append_of_pos hall, htail, List.append_nil,
    String.ofList_toList]

/-- Joined texts start with the first of them. -/
theorem exists_joinWith_cons (sep s : String) (rest : List String) :
    ∃ tail, joinWith sep (s :: rest) = s ++ tail := by
  rw [joinWith]
  induction rest using List.reverseRecOn with
  | nil => exact ⟨"", (String.append_empty).symm⟩
  | append_singleton rest t ih =>
      obtain ⟨tail, htail⟩ := ih
      rw [List.foldl_concat, htail]
      exact ⟨tail ++ sep ++ t, by simp only [String.append_assoc]⟩

theorem mappedColumn?_columnLine (c : Column) :
    mappedColumn? ("    #[ORM\\Column(" ++ (joinWith ", " (mappingOptions c) ++ ")]")) =
      some c.name := by
  obtain ⟨tail, htail⟩ := exists_joinWith_cons ", " ("name: " ++ singleQuoted c.name)
    (mappingOptions c).tail
  have hoptions : joinWith ", " (mappingOptions c) = "name: " ++ singleQuoted c.name ++ tail :=
    htail
  have hline : "    #[ORM\\Column(" ++ (joinWith ", " (mappingOptions c) ++ ")]") =
      columnStart ++ (singleQuoted c.name ++ (tail ++ ")]")) := by
    have hstart : columnStart = "    #[ORM\\Column(" ++ "name: " := rfl
    rw [hoptions, hstart]
    simp only [String.append_assoc]
  rw [hline, mappedColumn?, dropPrefix?_append, Option.bind_eq_bind, Option.bind_some,
    quotedText?_singleQuoted]
  rfl

theorem joinColumn?_joinLine (l : Association) (pair : String × Option String) :
    joinColumn? (joinLine l pair) = some (pair.1, pair.2.getD "None") := by
  have hline : ∃ tail, joinLine l pair = joinStart ++ (singleQuoted pair.1 ++
      (referenceStart ++ (singleQuoted (pair.2.getD "None") ++ tail))) := by
    delta joinLine
    simp only [String.append_assoc]
    exact ⟨_, rfl⟩
  obtain ⟨tail, htail⟩ := hline
  rw [htail, joinColumn?, dropPrefix?_append, Option.bind_eq_bind, Option.bind_some,
    quotedText?_singleQuoted]
  dsimp only [Option.bind_eq_bind, Option.bind_some]
  rw [dropPrefix?_append, Option.bind_some, quotedText?_singleQuoted]
  rfl

/-- The default of a property does not go on with its name. -/
theorem takeWhile_default (c : Column) :
    ((match default? c with
      | some value => " = " ++ value
      | none => "") ++ ";").toList.takeWhile isTame = [] := by
  cases default? c with
  | none => rfl
  | some value =>
      rw [String.toList_append, String.toList_append]
      rfl

theorem dollar_not_mem_propertyType (henum : ∀ t, c.enum = some t → '$' ∉ t.typeName.toList) :
    '$' ∉ (propertyType c).toList := by
  have hplain : ∀ s : Schema.SemanticType, '$' ∉ (plainTypes s).2.toList := by
    intro s
    cases s <;> decide
  have hmarked : ∀ type : String, '$' ∉ type.toList →
      '$' ∉ (if type == "mixed" then type
        else if isOptional c then "?" ++ type else type).toList := by
    intro type htype
    split_ifs
    · exact htype
    · rw [String.toList_append, List.mem_append]
      exact fun h => h.elim (by decide) htype
    · exact htype
  cases hc : c.enum with
  | none =>
      simp only [propertyType, hc]
      exact hmarked _ (hplain c.semantic)
  | some t =>
      simp only [propertyType, hc]
      refine hmarked _ ?_
      split_ifs
      · decide
      · exact henum t hc

end Lines

section Blocks

variable {c : Column} {l : Association}

theorem filterMap_property?_propertyLines
    (htype : '$' ∉ (propertyType c).toList) (hname : everyText.Spells c.fieldName) :
    (propertyLines c).filterMap property? = [c.fieldName] := by
  simp only [propertyLines, String.append_assoc]
  rw [List.filterMap_append,
    readsBehind_property?.filterMap_of_begins (begins_idLines c) (by decide), List.nil_append,
    List.filterMap_cons_none (readsBehind_property?.of_append (by decide) _),
    List.filterMap_cons_some (property?_of_declaration htype hname ?_),
    List.filterMap_cons_none readsBehind_property?.of_empty, List.filterMap_nil]
  exact takeWhile_default c

theorem filterMap_mappedColumn?_propertyLines (c : Column) :
    (propertyLines c).filterMap mappedColumn? = [c.name] := by
  simp only [propertyLines, String.append_assoc]
  rw [List.filterMap_append,
    readsBehind_mappedColumn?.filterMap_of_begins (begins_idLines c) (by decide), List.nil_append,
    List.filterMap_cons_some (mappedColumn?_columnLine c),
    List.filterMap_cons_none (readsBehind_mappedColumn?.of_append (by decide) _),
    List.filterMap_cons_none readsBehind_mappedColumn?.of_empty, List.filterMap_nil]

theorem filterMap_joinColumn?_propertyLines (c : Column) :
    (propertyLines c).filterMap joinColumn? = [] := by
  simp only [propertyLines, String.append_assoc]
  rw [List.filterMap_append,
    readsBehind_joinColumn?.filterMap_of_begins (begins_idLines c) (by decide), List.nil_append,
    List.filterMap_cons_none (readsBehind_joinColumn?.of_append (by decide) _),
    List.filterMap_cons_none (readsBehind_joinColumn?.of_append (by decide) _),
    List.filterMap_cons_none readsBehind_joinColumn?.of_empty, List.filterMap_nil]

theorem begins_joinLines (l : Association) :
    Begins ["    #[ORM\\JoinColumn("] (l.columnPairs.map (joinLine l)) := by
  refine begins_map fun pair _ => ?_
  -- The equation of this definition is slow to make.
  delta joinLine
  simp only [String.append_assoc]
  exact begun_append (by decide) _

theorem filterMap_property?_associationLines
    (htype : '$' ∉ (l.targetType.getD "None").toList) (hname : everyText.Spells l.name) :
    (associationLines l).filterMap property? = [l.name] := by
  have hoptional : '$' ∉ ("?" ++ l.targetType.getD "None").toList := by
    rw [String.toList_append, List.mem_append]
    exact fun h => h.elim (by decide) htype
  have hline : "    private ?" ++ (l.targetType.getD "None" ++ (" $" ++ (l.name ++ " = null;"))) =
      "    private " ++ ("?" ++ l.targetType.getD "None" ++ (" $" ++ (l.name ++ " = null;"))) := by
    have hstart : "    private ?" = "    private " ++ "?" := rfl
    rw [hstart]
    simp only [String.append_assoc]
  simp only [associationLines, String.append_assoc]
  rw [hline, List.filterMap_append, List.filterMap_append,
    readsBehind_property?.filterMap_of_begins (begins_joinLines l) (by decide), List.append_nil,
    List.filterMap_cons_none (readsBehind_property?.of_append (by decide) _),
    List.filterMap_nil, List.nil_append,
    List.filterMap_cons_some (property?_of_declaration hoptional hname rfl),
    List.filterMap_cons_none readsBehind_property?.of_empty, List.filterMap_nil]

theorem filterMap_mappedColumn?_associationLines (l : Association) :
    (associationLines l).filterMap mappedColumn? = [] := by
  simp only [associationLines, String.append_assoc]
  rw [List.filterMap_append, List.filterMap_append,
    readsBehind_mappedColumn?.filterMap_of_begins (begins_joinLines l) (by decide), List.append_nil,
    List.filterMap_cons_none (readsBehind_mappedColumn?.of_append (by decide) _),
    List.filterMap_nil, List.nil_append,
    List.filterMap_cons_none (readsBehind_mappedColumn?.of_append (by decide) _),
    List.filterMap_cons_none readsBehind_mappedColumn?.of_empty, List.filterMap_nil]

theorem filterMap_joinColumn?_associationLines (l : Association) :
    (associationLines l).filterMap joinColumn? =
      l.columnPairs.map fun pair => (pair.1, pair.2.getD "None") := by
  have hjoins : (l.columnPairs.map (joinLine l)).filterMap joinColumn? =
      l.columnPairs.map fun pair => (pair.1, pair.2.getD "None") := by
    rw [List.filterMap_map, ← List.filterMap_eq_map]
    exact List.filterMap_congr fun pair _ => joinColumn?_joinLine l pair
  simp only [associationLines, String.append_assoc]
  rw [List.filterMap_append, List.filterMap_append, hjoins,
    List.filterMap_cons_none (readsBehind_joinColumn?.of_append (by decide) _),
    List.filterMap_nil, List.nil_append,
    List.filterMap_cons_none (readsBehind_joinColumn?.of_append (by decide) _),
    List.filterMap_cons_none readsBehind_joinColumn?.of_empty, List.filterMap_nil,
    List.append_nil]

end Blocks

section Classes

variable {e : Entity}

/-- The properties of a class are the members of its entity. -/
theorem declaredProperties_eq (context : RenderContext)
    (hmembers : ∀ m ∈ members e, everyText.Spells m.1)
    (hcolumns : ∀ c ∈ declaredColumns e, '$' ∉ (propertyType c).toList)
    (hlinks : ∀ l ∈ linkedAssociations e, '$' ∉ (l.targetType.getD "None").toList) :
    declaredProperties context e =
      (declaredColumns e).map (·.fieldName) ++ (linkedAssociations e).map (·.name) := by
  rw [declaredProperties, readsBehind_property?.filterMap_entityLines (by decide),
    List.map_eq_flatMap, List.map_eq_flatMap]
  congr 1
  · refine List.flatMap_congr fun c hc => ?_
    exact filterMap_property?_propertyLines (hcolumns c hc)
      (hmembers _ (List.mem_append_left _ (List.mem_map_of_mem hc)))
  · refine List.flatMap_congr fun l hl => ?_
    exact filterMap_property?_associationLines (hlinks l hl)
      (hmembers _ (List.mem_append_right _ (List.mem_map_of_mem hl)))

/-- A class maps the columns that get a property of their own. -/
theorem mappedColumns_eq (context : RenderContext) (e : Entity) :
    mappedColumns context e = (declaredColumns e).map (·.name) := by
  rw [mappedColumns, readsBehind_mappedColumn?.filterMap_entityLines (by decide),
    List.map_eq_flatMap,
    List.flatMap_congr fun l _ => filterMap_mappedColumn?_associationLines l,
    List.flatMap_congr fun c _ => filterMap_mappedColumn?_propertyLines c]
  simp

/-- A class joins the column pairs of the associations that it links. -/
theorem joinColumns_eq (context : RenderContext) (e : Entity) :
    joinColumns context e = (linkedAssociations e).flatMap fun l =>
      l.columnPairs.map fun pair => (pair.1, pair.2.getD "None") := by
  rw [joinColumns, readsBehind_joinColumn?.filterMap_entityLines (by decide),
    List.flatMap_congr fun l _ => filterMap_joinColumn?_associationLines l,
    List.flatMap_congr fun c _ => filterMap_joinColumn?_propertyLines c]
  simp

/-- Columns that are known are joined as they are. -/
theorem map_joined_zip (sources targets : List String) :
    (sources.zip (targets.map some)).map (fun pair => (pair.1, pair.2.getD "None")) =
      sources.zip targets := by
  rw [List.zip_map_right, List.map_map]
  exact List.map_id _

/-- A column that an association owns is joined, and every other column is mapped. -/
theorem mapped_or_joined {c : Column} (context : RenderContext) (hc : c ∈ e.columns) :
    c.name ∈ mappedColumns context e ∨ c.name ∈ (joinColumns context e).map (·.1) := by
  rw [mappedColumns_eq, joinColumns_eq]
  by_cases howned : isMappedByAssociation e c = true
  · obtain ⟨-, hany⟩ := Bool.and_eq_true_iff.mp howned
    obtain ⟨l, hl, hsource⟩ := List.any_eq_true.mp hany
    obtain ⟨hname, hlinked⟩ := Bool.and_eq_true_iff.mp hsource
    obtain ⟨pair, hpair, heq⟩ := List.mem_map.mp (List.contains_iff_mem.mp hname)
    refine Or.inr (List.mem_map.mpr ⟨(pair.1, pair.2.getD "None"), ?_, heq⟩)
    exact List.mem_flatMap.mpr
      ⟨l, List.mem_filter.mpr ⟨hl, hlinked⟩, List.mem_map_of_mem hpair⟩
  · refine Or.inl (List.mem_map_of_mem (List.mem_filter.mpr ⟨hc, ?_⟩))
    simpa using howned

end Classes

section Assemblies

variable {a : Assembler} {names : List String} {tables : List Schema.Table}
variable {failures : List (String × String)} {result : Assembly} {e : Entity} {l : Association}

/-- A linked association has an entity of the assembly as its target. -/
theorem target_of_linked
    (h : a.assemble names tables failures = .ok result) (he : e ∈ result.entities)
    (hl : l ∈ linkedAssociations e) :
    ∃ d ∈ result.entities, d.name = l.targetTable ∧ l.target = some d.ref := by
  obtain ⟨hmem, hlinked⟩ := List.mem_filter.mp hl
  obtain ⟨htarget, hunresolved⟩ := target_of_association h he hmem
  cases hfind : result.entity? l.targetTable with
  | none =>
      rw [hfind] at htarget
      rw [hunresolved, htarget] at hlinked
      cases hlinked
  | some d =>
      rw [hfind] at htarget
      exact ⟨d, List.mem_of_find?_eq_some hfind, by simpa using List.find?_some hfind, htarget⟩

/-- An association to a table of the assembly is linked. -/
theorem linked_of_entity {d : Entity}
    (h : a.assemble names tables failures = .ok result) (he : e ∈ result.entities)
    (hl : l ∈ e.associations) (hd : d ∈ result.entities) (hname : d.name = l.targetTable) :
    l ∈ linkedAssociations e := by
  obtain ⟨htarget, hunresolved⟩ := target_of_association h he hl
  rw [← hname, entity?_of_mem h hd] at htarget
  refine List.mem_filter.mpr ⟨hl, ?_⟩
  rw [hunresolved, htarget]
  rfl

/-- A linked association pairs the columns of its foreign key with those that they reference. -/
theorem columnPairs_of_linked {table : Schema.Table}
    (h : a.assemble names tables failures = .ok result) (he : e ∈ result.entities)
    (hkept : keptTable? tables e.name = some table) (hl : l ∈ linkedAssociations e) :
    ∃ key ∈ table.foreignKeys, StandsFor tables key l ∧
      ∃ target, keptTable? tables key.targetTable = some target ∧
        l.columnPairs = key.sourceColumns.zip ((referencedColumns key target).map some) := by
  obtain ⟨d, hd, hname, -⟩ := target_of_linked h he hl
  obtain ⟨target, htarget⟩ := exists_keptTable h hd
  obtain ⟨own, hown, keys, hperm, hkeys⟩ := Assembler.associations_paired h he
  obtain rfl := Option.some.inj (hkept.symm.trans hown)
  obtain ⟨key, hkey, hstands, hpairs⟩ := exists_of_mem_right hkeys (List.mem_filter.mp hl).1
  rw [hname, hstands.targetTable] at htarget
  obtain ⟨-, hsources, htargets⟩ := hpairs.read target htarget
  refine ⟨key, hperm.mem_iff.mp hkey, hstands, target, htarget, ?_⟩
  exact List.zip_of_prod hsources htargets

/-- Types of properties are spelled, so they have no dollar sign. -/
theorem dollar_not_mem_types
    (h : a.assemble names tables failures = .ok result) (he : e ∈ result.entities) :
    (∀ c ∈ e.columns, '$' ∉ (propertyType c).toList) ∧
      ∀ l ∈ linkedAssociations e, '$' ∉ (l.targetType.getD "None").toList := by
  constructor
  · intro c hc
    obtain ⟨table, -, -, hdescribed⟩ := exists_described_columns h he
    obtain ⟨raw, -, hraw⟩ := exists_of_mem_right hdescribed hc
    refine dollar_not_mem_propertyType fun t ht => not_mem_of_spells ?_ (by decide)
    rw [(typing_of_describeColumn hraw).2.2.1] at ht
    exact (spelledNames_of_mem h he).types t.typeName
      (List.mem_cons_of_mem _ (List.mem_map_of_mem (column_of_find? ht).1))
  · intro l hl
    obtain ⟨d, hd, -, htarget⟩ := target_of_linked h he hl
    rw [Association.targetType, htarget]
    exact not_mem_of_spells ((spelledNames_of_mem h hd).types d.typeName (List.mem_cons_self ..))
      (by decide)

/-- **Mapped columns.**  The class of an entity maps or joins every column; its properties are the
fields of the columns that get one and the associations that are linked, and they are distinct; and
every joined column is one of a foreign key, next to the column of the target that it references. -/
theorem entity_maps_every_column
    (h : a.assemble names tables failures = .ok result)
    (hcolumns : ∀ table ∈ tables, (table.columns.map (·.name)).Nodup)
    (he : e ∈ result.entities) (context : RenderContext) :
    (∀ c ∈ e.columns,
      c.name ∈ mappedColumns context e ∨ c.name ∈ (joinColumns context e).map (·.1)) ∧
    (mappedColumns context e).Nodup ∧
    declaredProperties context e =
      (declaredColumns e).map (·.fieldName) ++ (linkedAssociations e).map (·.name) ∧
    (declaredProperties context e).Nodup ∧
    ∃ table, keptTable? tables e.name = some table ∧
      ∀ join ∈ joinColumns context e, ∃ l ∈ linkedAssociations e,
        ∃ key ∈ table.foreignKeys, StandsFor tables key l ∧
          ∃ target, keptTable? tables key.targetTable = some target ∧
            join ∈ key.sourceColumns.zip (referencedColumns key target) := by
  obtain ⟨htypes, htargets⟩ := dollar_not_mem_types h he
  have hproperties := declaredProperties_eq context (spells_of_mem_members h he)
    (fun c hc => htypes c (List.mem_filter.mp hc).1) htargets
  obtain ⟨table, hkept, -, hdescribed⟩ := exists_described_columns h he
  refine ⟨fun c hc => mapped_or_joined context hc, ?_, hproperties, ?_, table, hkept, ?_⟩
  · rw [mappedColumns_eq]
    have hnames := hcolumns table (Assembler.mem_of_keptTable? hkept)
    rw [← map_name_of_described hdescribed] at hnames
    exact hnames.sublist (List.filter_sublist.map _)
  · have hmembers := nodup_map_fst_members h hcolumns he
    rwa [map_fst_members, ← hproperties] at hmembers
  · intro join hjoin
    rw [joinColumns_eq] at hjoin
    obtain ⟨l, hl, hjoin⟩ := List.mem_flatMap.mp hjoin
    obtain ⟨key, hkey, hstands, target, htarget, hpairs⟩ := columnPairs_of_linked h he hkept hl
    refine ⟨l, hl, key, hkey, hstands, target, htarget, ?_⟩
    rwa [hpairs, map_joined_zip] at hjoin

end Assemblies

section Sample

open Assembler (seats tickets stubs validateKeys_tickets)

/-- Only one foreign key of the sample has a target that is read. -/
theorem pairs_of_tickets {key : Schema.ForeignKey} {target : Schema.Table}
    (hkey : key ∈ tickets.foreignKeys)
    (hread : keptTable? [seats, tickets, stubs] key.targetTable = some target) :
    key.sourceColumns.zip (referencedColumns key target) =
      [("row_no", "row"), ("seat_no", "number")] := by
  rcases List.mem_pair.mp hkey with rfl | rfl
  · obtain rfl : seats = target := Option.some.inj hread
    rfl
  · cases hread

/-- The class of a table that references a key of two columns, and a table that was not read. -/
theorem members_of_tickets :
    ∃ result, assembler.assemble ["seats", "tickets"] [seats, tickets, stubs] [] = .ok result ∧
      ∃ e ∈ result.entities, ∀ context,
        (∀ c ∈ e.columns,
          c.name ∈ mappedColumns context e ∨ c.name ∈ (joinColumns context e).map (·.1)) ∧
        (declaredProperties context e).Nodup ∧
        ∀ join, join ∈ joinColumns context e ↔
          join ∈ [("row_no", "row"), ("seat_no", "number")] := by
  have hsources : ∀ table ∈ [seats, tickets, stubs], ∀ key ∈ table.foreignKeys,
      key.sourceColumns ≠ [] := by decide
  obtain ⟨result, h⟩ := Assembler.assemble_total (a := assembler) (typeName_total rfl) hsources
    ["seats", "tickets"] []
  have hsource : ∀ typeNames, ∃ entity, (assembler.extract typeNames
      (Assembler.tablesByName [seats, tickets, stubs]) tickets).2 = .ok entity := by
    intro typeNames
    rw [Assembler.extract, validateKeys_tickets]
    exact ⟨_, rfl⟩
  have htarget : ∀ typeNames, ∃ entity, (assembler.extract typeNames
      (Assembler.tablesByName [seats, tickets, stubs]) seats).2 = .ok entity :=
    fun typeNames => ⟨_, rfl⟩
  obtain ⟨e, he, hname⟩ := Assembler.exists_entity h rfl hsource
  obtain ⟨d, hd, hseats⟩ := Assembler.exists_entity h rfl htarget
  have hkept : keptTable? [seats, tickets, stubs] e.name = some tickets := hname ▸ rfl
  refine ⟨result, h, e, he, fun context => ?_⟩
  obtain ⟨hall, -, -, hnodup, table, hown, hjoins⟩ :=
    entity_maps_every_column h (by decide) he context
  obtain rfl := Option.some.inj (hkept.symm.trans hown)
  refine ⟨hall, hnodup, fun join => ⟨fun hjoin => ?_, fun hjoin => ?_⟩⟩
  · obtain ⟨l, -, key, hkey, -, target, hread, hpair⟩ := hjoins join hjoin
    exact pairs_of_tickets hkey hread ▸ hpair
  · -- The association to the seats is linked, as they are part of the run.
    obtain ⟨l, hl, hto⟩ := exists_association h he hkept (List.mem_cons_self ..)
    have hlinked := linked_of_entity h he hl hd (hseats.trans hto.symm)
    obtain ⟨key, hkey, -, target, hread, hpairs⟩ := columnPairs_of_linked h he hkept hlinked
    rw [joinColumns_eq]
    refine List.mem_flatMap.mpr ⟨l, hlinked, ?_⟩
    rwa [hpairs, map_joined_zip, pairs_of_tickets hkey hread]

end Sample

end Doctrine
end Emit
end TableCast
