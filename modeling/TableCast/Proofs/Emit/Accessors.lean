import TableCast.Emit.TemplateSet
import TableCast.Proofs.Emit.ClassLines
import TableCast.Proofs.Model.NameRules

/-!
# The accessors of a Doctrine entity

PHP tells method names apart without regard to the case of ASCII letters.  The class of an entity
declares a reading accessor for each of its members and a writing one for most of them, and no other
method, so its methods can be told from the starts of its lines.

Members have distinct names, but the scope that gives them out tells letter case apart.  So two
accessors clash exactly when two members differ in letter case only, once the first letter is a
capital.

**Results.**
* `declaredMethods_eq`: the methods of a class are the accessors of its members.
* `distinct_accessors_iff`: when the methods of a class are distinct.
* `clashing_accessors_of_sessions`: two columns whose accessors clash.
-/

namespace TableCast
namespace Emit
namespace Doctrine

open Text Name Model Fallible

/-- The start of a line that declares a method. -/
def methodStart : List Char := "    public function ".toList

/-- The name of the method that a line declares. -/
def method? (line : String) : Option String :=
  (line.toList.dropPrefix? methodStart).map fun rest => String.ofList (rest.takeWhile (· != '('))

/-- The names of the methods that the class of an entity declares, in order. -/
def declaredMethods (context : RenderContext) (e : Entity) : List String :=
  (entityLines context e).filterMap method?

/-- A name as the names of methods are compared. -/
def foldCase (name : String) : String := String.ofList (name.toList.map asciiLower)

section Lines

variable {name rest : String} {cs : List Char}

theorem readsBehind_method? : ReadsBehind methodStart method? where
  nonempty := by decide
  silent line h := by rw [method?, h, Option.map_none]

/-- The start of a line decides. -/
theorem method?_of_start (h : apart methodStart cs = true) (rest : String) :
    method? (String.ofList cs ++ rest) = none := by
  refine readsBehind_method?.of_append ?_ rest
  rwa [String.toList_ofList]

theorem method?_empty : method? "" = none := readsBehind_method?.of_empty

theorem method?_of_text (h : apart methodStart cs = true) : method? (String.ofList cs) = none := by
  simpa using method?_of_start h ""

/-- A declaration names its method up to the opening parenthesis. -/
theorem method?_of_declaration
    (verb : String) {start tail : String} (hstart : start.toList = methodStart ++ verb.toList)
    (hverb : '(' ∉ verb.toList) (hname : '(' ∉ name.toList) (htail : tail.toList.head? = some '(') :
    method? (start ++ (name ++ tail)) = some (verb ++ name) := by
  obtain ⟨more, hmore⟩ := List.head?_eq_some_iff.mp htail
  have hdrop : (start ++ (name ++ tail)).toList.dropPrefix? methodStart =
      some ((verb ++ name).toList ++ '(' :: more) := by
    refine List.dropPrefix?_eq_some_iff.mpr ⟨methodStart, ?_, beq_iff_eq.mpr rfl⟩
    rw [String.toList_append, String.toList_append, String.toList_append, hstart, hmore]
    simp only [List.append_assoc]
  have hall : ∀ c ∈ (verb ++ name).toList, (c != '(') = true := by
    intro c hc
    rw [bne_iff_ne]
    rintro rfl
    rw [String.toList_append, List.mem_append] at hc
    exact hc.elim hverb hname
  rw [method?, hdrop, Option.map_some, List.takeWhile_append_of_pos hall,
    List.takeWhile_cons_of_neg (by decide), List.append_nil, String.ofList_toList]

end Lines

section Members

variable {e : Entity} {name : String}

/-- The members that have accessors, each with whether it can be set. -/
def members (e : Entity) : List (String × Bool) :=
  (declaredColumns e).map (fun c => (c.fieldName, isSettable c)) ++
    (linkedAssociations e).map fun l => (l.name, true)

/-- The accessors of a member. -/
def accessors (member : String × Bool) : List String :=
  ("get" ++ accessorName member.1) ::
    if member.2 then ["set" ++ accessorName member.1] else []

theorem filterMap_getterLines (hname : '(' ∉ (accessorName name).toList) (type : String) :
    (getterLines name type).filterMap method? = ["get" ++ accessorName name] := by
  simp only [getterLines, String.append_assoc]
  rw [List.filterMap_cons_some (method?_of_declaration "get" rfl (by decide) hname (by simp)),
    List.filterMap_cons_none (method?_of_text rfl),
    List.filterMap_cons_none (method?_of_start rfl _),
    List.filterMap_cons_none (method?_of_text rfl), List.filterMap_cons_none method?_empty,
    List.filterMap_nil]

theorem filterMap_setterLines (hname : '(' ∉ (accessorName name).toList) (type : String) :
    (setterLines name type).filterMap method? = ["set" ++ accessorName name] := by
  simp only [setterLines, String.append_assoc]
  rw [List.filterMap_cons_some (method?_of_declaration "set" rfl (by decide) hname (by simp)),
    List.filterMap_cons_none (method?_of_text rfl),
    List.filterMap_cons_none (method?_of_start rfl _), List.filterMap_cons_none method?_empty,
    List.filterMap_cons_none (method?_of_text rfl),
    List.filterMap_cons_none (method?_of_text rfl), List.filterMap_cons_none method?_empty,
    List.filterMap_nil]

/-- A name that is spelled has no parenthesis, and neither has the name of its accessors. -/
theorem not_mem_accessorName (h : everyText.Spells name) : '(' ∉ (accessorName name).toList := by
  rw [accessorName]
  cases hname : name.toList with
  | nil => exact List.not_mem_nil
  | cons first rest =>
      have hspelled : ∀ c ∈ first :: rest, isTame c = true := hname ▸ h
      rw [String.toList_ofList, List.mem_append]
      rintro (hupper | hrest)
      · rw [upperChars, List.flatMap_singleton] at hupper
        rcases mem_upperChar hupper with ⟨hascii, heq⟩ | htame
        · have htame := hspelled first (List.mem_cons_self ..)
          rw [isTame, Bool.or_eq_true, decide_eq_true_eq] at htame
          have hplain := isPlain_asciiUpper (htame.resolve_right (by omega))
          exact absurd (heq ▸ hplain) (by decide)
        · exact absurd htame (by decide)
      · exact absurd (hspelled '(' (List.mem_cons_of_mem _ hrest)) (by decide)

theorem filterMap_columnAccessors {c : Column} (h : everyText.Spells c.fieldName) :
    (columnAccessors c).filterMap method? = accessors (c.fieldName, isSettable c) := by
  rw [columnAccessors, List.filterMap_append, filterMap_getterLines (not_mem_accessorName h),
    accessors]
  split_ifs
  · rw [filterMap_setterLines (not_mem_accessorName h)]
    rfl
  · rfl

theorem filterMap_associationAccessors {l : Association} (h : everyText.Spells l.name) :
    (associationAccessors l).filterMap method? = accessors (l.name, true) := by
  rw [associationAccessors]
  simp only [List.filterMap_append, filterMap_getterLines (not_mem_accessorName h),
    filterMap_setterLines (not_mem_accessorName h)]
  rfl

end Members

section Classes

variable {e : Entity}

/-- The methods of a class are the accessors of its members. -/
theorem declaredMethods_eq
    (context : RenderContext) (h : ∀ m ∈ members e, everyText.Spells m.1) :
    declaredMethods context e = (members e).flatMap accessors := by
  have hcolumns : ∀ c ∈ declaredColumns e, everyText.Spells c.fieldName := fun c hc =>
    h _ (List.mem_append_left _ (List.mem_map_of_mem hc))
  have hlinks : ∀ l ∈ linkedAssociations e, everyText.Spells l.name := fun l hl =>
    h _ (List.mem_append_right _ (List.mem_map_of_mem hl))
  have hheads : headStarts ⊆ headStarts ++ constantStarts ++ memberStarts := by simp
  have hconstants : constantStarts ⊆ headStarts ++ constantStarts ++ memberStarts :=
    fun s hs => by simp [hs]
  have hproperties : memberStarts ⊆ headStarts ++ constantStarts ++ memberStarts := by simp
  have hhead : Begins (headStarts ++ constantStarts ++ memberStarts)
      (fileHead (context.moduleOf .entity) ++ useLines context e ++ classHead context e ++
        e.columns.flatMap constantLines ++ (declaredColumns e).flatMap propertyLines ++
        (linkedAssociations e).flatMap associationLines) := by
    simp only [begins_append]
    exact ⟨⟨⟨⟨⟨(begins_fileHead _).mono hheads, (begins_useLines context e).mono hheads⟩,
      (begins_classHead context e).mono hheads⟩,
      begins_flatMap fun c _ => (begins_constantLines c).mono hconstants⟩,
      begins_flatMap fun c _ => (begins_propertyLines c).mono hproperties⟩,
      begins_flatMap fun l _ => (begins_associationLines l).mono hproperties⟩
  rw [declaredMethods, entityLines, List.filterMap_append, List.filterMap_append,
    List.filterMap_append, readsBehind_method?.filterMap_of_begins hhead (by decide),
    List.nil_append,
    List.filterMap_flatMap, List.filterMap_flatMap, members, List.flatMap_append,
    List.flatMap_map, List.flatMap_map, List.filterMap_cons_none (method?_of_text rfl),
    List.filterMap_nil, List.append_nil]
  congr 1
  · exact List.flatMap_congr fun c hc => filterMap_columnAccessors (hcolumns c hc)
  · exact List.flatMap_congr fun l hl => filterMap_associationAccessors (hlinks l hl)

end Classes

section LetterCase

variable {name other : String}

theorem foldCase_append (name other : String) :
    foldCase (name ++ other) = foldCase name ++ foldCase other := by
  rw [foldCase, String.toList_append, List.map_append, String.ofList_append]
  rfl

theorem getter_ne_setter (name other : String) : "get" ++ name ≠ "set" ++ other := by
  intro h
  have hchars := congrArg String.toList h
  rw [String.toList_append, String.toList_append] at hchars
  exact absurd (List.head_eq_of_cons_eq hchars) (by decide)

/-- Folding the accessors of a member leaves their verbs alone. -/
theorem map_foldCase_accessors (m : String × Bool) :
    (accessors m).map foldCase = ("get" ++ foldCase (accessorName m.1)) ::
      if m.2 then ["set" ++ foldCase (accessorName m.1)] else [] := by
  have hget : foldCase "get" = "get" := rfl
  have hset : foldCase "set" = "set" := rfl
  rw [accessors, List.map_cons, foldCase_append, hget]
  split_ifs
  · rw [List.map_singleton, foldCase_append, hset]
  · rfl

theorem mem_map_foldCase {m : String × Bool} :
    name ∈ (accessors m).map foldCase ↔
      name = "get" ++ foldCase (accessorName m.1) ∨
        m.2 = true ∧ name = "set" ++ foldCase (accessorName m.1) := by
  rw [map_foldCase_accessors, List.mem_cons]
  refine or_congr_right ?_
  cases m.2 with
  | false => simp
  | true => simp

theorem nodup_map_foldCase (m : String × Bool) : ((accessors m).map foldCase).Nodup := by
  rw [map_foldCase_accessors]
  split_ifs
  · refine List.nodup_cons.mpr ⟨fun h => ?_, List.nodup_singleton _⟩
    exact getter_ne_setter _ _ (List.mem_singleton.mp h)
  · exact List.nodup_singleton _

/-- The accessors of two members clash when their names are the same but for letter case. -/
theorem disjoint_accessors_iff (m m' : String × Bool) :
    List.Disjoint ((accessors m).map foldCase) ((accessors m').map foldCase) ↔
      foldCase (accessorName m.1) ≠ foldCase (accessorName m'.1) := by
  constructor
  · intro hdisjoint heq
    refine hdisjoint (mem_map_foldCase.mpr (Or.inl rfl)) (mem_map_foldCase.mpr (Or.inl ?_))
    rw [heq]
  · intro hne name hname hname'
    rcases mem_map_foldCase.mp hname with rfl | ⟨-, rfl⟩ <;>
      rcases mem_map_foldCase.mp hname' with heq | ⟨-, heq⟩
    · exact hne (String.append_right_inj _ |>.mp heq)
    · exact getter_ne_setter _ _ heq
    · exact getter_ne_setter _ _ heq.symm
    · exact hne (String.append_right_inj _ |>.mp heq)

theorem nodup_map_foldCase_iff (ms : List (String × Bool)) :
    ((ms.flatMap accessors).map foldCase).Nodup ↔
      ((ms.map (·.1)).map fun name => foldCase (accessorName name)).Nodup := by
  rw [List.map_flatMap, List.nodup_flatMap, List.map_map, List.Nodup, List.pairwise_map]
  constructor
  · rintro ⟨-, h⟩
    exact h.imp fun hdisjoint => (disjoint_accessors_iff _ _).mp hdisjoint
  · intro h
    exact ⟨fun m _ => nodup_map_foldCase m, h.imp fun hne => (disjoint_accessors_iff _ _).mpr hne⟩

end LetterCase

section Assemblies

variable {a : Assembler} {names : List String} {tables : List Schema.Table}
variable {failures : List (String × String)} {result : Assembly} {e : Entity}

theorem map_fst_members (e : Entity) :
    (members e).map (·.1) =
      (declaredColumns e).map (·.fieldName) ++ (linkedAssociations e).map (·.name) := by
  rw [members, List.map_append, List.map_map, List.map_map]
  rfl

/-- The members with accessors are among the members of the entity. -/
theorem map_fst_members_sublist (e : Entity) :
    ((members e).map (·.1)).Sublist (e.fieldNames ++ e.associations.map (·.name)) := by
  rw [map_fst_members]
  exact (List.filter_sublist.map _).append (List.filter_sublist.map _)

theorem spells_of_mem_members
    (h : a.assemble names tables failures = .ok result) (he : e ∈ result.entities) :
    ∀ m ∈ members e, everyText.Spells m.1 := by
  have hgood := spelledNames_of_mem h he
  intro m hm
  have hname := (map_fst_members_sublist e).subset (List.mem_map_of_mem hm)
  rcases List.mem_append.mp hname with hfield | hlink
  · exact hgood.fields m.1 hfield
  · obtain ⟨l, hl, heq⟩ := List.mem_map.mp hlink
    exact heq ▸ hgood.associations l hl

theorem nodup_map_fst_members
    (h : a.assemble names tables failures = .ok result)
    (hcolumns : ∀ table ∈ tables, (table.columns.map (·.name)).Nodup)
    (he : e ∈ result.entities) :
    ((members e).map (·.1)).Nodup := by
  obtain ⟨candidates, -, hall⟩ := Assembler.exists_linkedFrom h
  obtain ⟨table, source, pair, hfrom, rfl⟩ := hall e he
  have htable := Assembler.mem_of_mem_tablesByName hfrom.table_mem
  exact (nodup_members_of_linkedFrom hfrom (hcolumns table htable)).sublist
    (map_fst_members_sublist _)

/-- **The methods of a class are the accessors of its members, and no two of them clash** exactly
when no two members have names that are the same but for letter case, once the first letter is a
capital. -/
theorem distinct_accessors_iff
    (h : a.assemble names tables failures = .ok result)
    (hcolumns : ∀ table ∈ tables, (table.columns.map (·.name)).Nodup)
    (he : e ∈ result.entities) (context : RenderContext) :
    declaredMethods context e = (members e).flatMap accessors ∧
    (((declaredMethods context e).map foldCase).Nodup ↔
      ∀ name ∈ (members e).map (·.1), ∀ other ∈ (members e).map (·.1),
        foldCase (accessorName name) = foldCase (accessorName other) → name = other) := by
  have hmethods := declaredMethods_eq context (spells_of_mem_members h he)
  refine ⟨hmethods, ?_⟩
  rw [hmethods, nodup_map_foldCase_iff,
    List.nodup_map_iff_inj_on (nodup_map_fst_members h hcolumns he)]

/-- The members of a table without foreign keys are its columns, under the field names that they
prefer when these are distinct. -/
theorem members_of_keyless {table : Schema.Table}
    (h : a.assemble names tables failures = .ok result) (he : e ∈ result.entities)
    (hkept : keptTable? tables e.name = some table) (hkeys : table.foreignKeys = [])
    (hpreferred : (table.columns.map fun c => a.normalizer.fieldName c.name).Nodup) :
    members e = table.columns.map fun raw => (a.normalizer.fieldName raw.name,
      !(table.primaryKey.contains raw.name && raw.autoIncrement)) := by
  obtain ⟨candidates, -, hall⟩ := Assembler.exists_linkedFrom h
  obtain ⟨source, linkedSource, pair, hfrom, rfl⟩ := hall e he
  have hsame := Assembler.mem_tablesByName.mp hfrom.table_mem
  rw [← hfrom.name, hkept] at hsame
  obtain rfl := Option.some.inj hsame
  obtain ⟨-, hdescribed, -⟩ := hfrom.parts
  obtain ⟨hlinks, -, -⟩ := link_ok hfrom.link
  rw [hkeys, List.mergeSort_nil, List.forall₂_nil_left_iff] at hlinks
  have hnone : pair.1.closed.associations = [] := hlinks
  have hdeclared : declaredColumns pair.1.closed = pair.1.closed.columns := by
    refine List.filter_eq_self.mpr fun c _ => ?_
    rw [isMappedByAssociation, hnone, List.any_nil, Bool.and_false]
    rfl
  rw [members, hdeclared, linkedAssociations, hnone, List.filter_nil, List.map_nil,
    List.append_nil, List.map_eq_flatMap, List.map_eq_flatMap]
  refine (flatMap_of_forall₂ (Assembler.describeColumns_ok hdescribed) fun raw hraw c hc => ?_).symm
  obtain ⟨hdescribes, hfield⟩ := describes_of_describeColumn hc
  rw [hfield, lookup?_fieldNames_of_preferred hpreferred hraw, Option.getD_some, isSettable,
    hdescribes.isPrimary, hdescribes.autoIncrement]

end Assemblies

section Samples

/-- A run with the normalizer of the built-in set. -/
def assembler : Assembler :=
  { dialect := .mysql, normalizer := doctrineSet.normalizer false, emitEnums := false }

/-- A table with a numbered key and two other columns. -/
def sessions (first second : String) : Schema.Table :=
  { name := "sessions"
    columns := [
      { name := "id", nativeType := "int", autoIncrement := true },
      { name := first, nativeType := "int" },
      { name := second, nativeType := "int" }]
    indexes := [{ name := "sessions_pkey", columns := ["id"], unique := true, primary := true }] }

theorem sessions_assembled (first second : String) :
    ∃ result, assembler.assemble ["sessions"] [sessions first second] [] = .ok result ∧
      ∃ e ∈ result.entities, e.name = "sessions" :=
  Assembler.exists_entity_of_lone (typeName_total rfl) (fun _ h => absurd h List.not_mem_nil)
    fun _ => ⟨_, rfl⟩

theorem members_sessions {first second : String} {result : Assembly} {e : Entity}
    (hpreferred : ((sessions first second).columns.map fun c =>
      assembler.normalizer.fieldName c.name).Nodup)
    (h : assembler.assemble ["sessions"] [sessions first second] [] = .ok result)
    (he : e ∈ result.entities) (hname : e.name = "sessions") :
    members e = [("id", false), (assembler.normalizer.fieldName first, true),
      (assembler.normalizer.fieldName second, true)] := by
  have hkept : keptTable? [sessions first second] e.name = some (sessions first second) :=
    Assembler.keptTable?_singleton hname
  have hid : assembler.normalizer.fieldName "id" = "id" := by decide +kernel
  have hkey : (sessions first second).primaryKey = ["id"] := rfl
  rw [members_of_keyless h he hkept rfl hpreferred, hkey]
  simp [sessions, hid]

/-- The accessors of a table with two columns that differ in more than letter case. -/
theorem distinct_accessors_of_sessions :
    ∃ result, assembler.assemble ["sessions"] [sessions "user_name" "user_agent"] [] = .ok result ∧
      ∃ e ∈ result.entities, ∀ context, ((declaredMethods context e).map foldCase).Nodup := by
  obtain ⟨result, h, e, he, hname⟩ := sessions_assembled "user_name" "user_agent"
  refine ⟨result, h, e, he, fun context => ?_⟩
  refine (distinct_accessors_iff h (by decide) he context).2.mpr ?_
  rw [members_sessions (by decide +kernel) h he hname]
  decide +kernel

/-- Two columns whose accessors are the same but for letter case. -/
theorem clashing_accessors_of_sessions :
    ((sessions "userid" "user_id").columns.map (·.name)).Nodup ∧
    ∃ result, assembler.assemble ["sessions"] [sessions "userid" "user_id"] [] = .ok result ∧
      ∃ e ∈ result.entities, ∀ context,
        declaredMethods context e = ["getId", "getUserid", "setUserid", "getUserId", "setUserId"] ∧
        ¬ ((declaredMethods context e).map foldCase).Nodup := by
  obtain ⟨result, h, e, he, hname⟩ := sessions_assembled "userid" "user_id"
  refine ⟨by decide, result, h, e, he, fun context => ?_⟩
  have hmethods : declaredMethods context e =
      ["getId", "getUserid", "setUserid", "getUserId", "setUserId"] := by
    rw [declaredMethods_eq context (spells_of_mem_members h he),
      members_sessions (by decide +kernel) h he hname]
    decide +kernel
  refine ⟨hmethods, ?_⟩
  rw [hmethods]
  decide +kernel

end Samples

end Doctrine
end Emit
end TableCast
