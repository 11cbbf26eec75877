import TableCast.Emit.Emitter
import TableCast.Proofs.Model.TypeNames
import TableCast.Proofs.Name.FileNames

/-!
# The paths of a run

Type names are distinct, but a file is named after the words of a type name in small letters,
and two type names can have the same words: the types `AB` and `Ab` have one file.

**Results.**
* `nodup_artifactPaths_iff`: the paths of a run are distinct exactly when the file names of its
  entities are, and those of its enum types.
* `artifactPaths_of_joined`: two tables with different names and one path.
* `nodup_artifactPaths_of_preferred`: paths are distinct when the preferred type names have
  distinct file names.
-/

namespace TableCast
namespace Emit

open Name Model Schema Reordering

/-- The paths of the artifacts of entities, in the order in which they are planned. -/
def artifactPaths (set : TemplateSet) (options : RenderOptions) (entities : List Entity) :
    List String :=
  (entities.flatMap (plan set options)).map fun p => set.relativePath p.kind p.name

section Paths

/-- The path of a module of the given name. -/
def modulePath (kind : ArtifactKind) (name : String) : String :=
  pythonSet.directoryOf kind ++ "/" ++ (name ++ ".py")

theorem relativePath_python (kind : ArtifactKind) (name : String) :
    pythonSet.relativePath kind name = modulePath kind (snake name) := by
  cases kind with
  | entity => rfl
  | repository => rfl
  | enum => rfl

theorem modulePath_injective (kind : ArtifactKind) : Function.Injective (modulePath kind) := by
  intro s t h
  apply String.toList_injective
  have hlist := congrArg String.toList h
  simpa [modulePath, String.toList_append] using hlist

/-- The directories of the kinds differ in their third letters. -/
theorem kind_of_modulePath_eq {kind kind' : ArtifactKind} {s t : String}
    (h : modulePath kind s = modulePath kind' t) : kind = kind' := by
  have hthird : ∀ kind name, (modulePath kind name).toList[2]? =
      (pythonSet.directoryOf kind).toList[2]? := by
    intro kind name
    have hlength : 2 < (pythonSet.directoryOf kind).toList.length := by
      cases kind with
      | entity => decide
      | repository => decide
      | enum => decide
    rw [modulePath, String.toList_append, String.toList_append,
      List.getElem?_append_left (by rw [List.length_append]; omega),
      List.getElem?_append_left hlength]
  have hletters : ∀ k k' : ArtifactKind, (pythonSet.directoryOf k).toList[2]? =
      (pythonSet.directoryOf k').toList[2]? → k = k' := by
    intro k k'
    cases k <;> cases k' <;> decide
  apply hletters
  rw [← hthird kind s, h, hthird]

end Paths

section Plans

variable {options : RenderOptions} {e : Entity} {entities : List Entity}

/-- The entity's own artifact. -/
def entityPlan (e : Entity) : Plan :=
  { kind := .entity, name := e.typeName, entity := e }

/-- The artifact of the repository of an entity. -/
def repositoryPlan (e : Entity) : Plan :=
  { kind := .repository, name := e.companion.getD "", entity := e }

/-- The artifact of an enum type of an entity. -/
def enumPlan (e : Entity) (t : EnumType) : Plan :=
  { kind := .enum, name := t.typeName, entity := e, enum := some t }

theorem plan_python (options : RenderOptions) (e : Entity) :
    plan pythonSet options e =
      entityPlan e :: (if hasRepository options e then [repositoryPlan e] else []) ++
        if options.emitEnums then e.enums.map (enumPlan e) else [] := by
  have hrepository : pythonSet.supports .repository = true := by decide
  have henum : pythonSet.supports .enum = true := by decide
  rw [plan, hrepository, henum, Bool.and_true, Bool.and_true]
  rfl

theorem filter_entity_plans (options : RenderOptions) (entities : List Entity) :
    (entities.flatMap (plan pythonSet options)).filter (·.kind = .entity) =
      entities.map entityPlan := by
  rw [List.filter_flatMap, List.map_eq_flatMap]
  refine List.flatMap_congr fun e _ => ?_
  rw [plan_python]
  split_ifs <;> simp [entityPlan, repositoryPlan, enumPlan]

theorem filter_repository_plans (options : RenderOptions) (entities : List Entity) :
    (entities.flatMap (plan pythonSet options)).filter (·.kind = .repository) =
      (entities.filter (hasRepository options)).map repositoryPlan := by
  induction entities with
  | nil => rfl
  | cons e entities ih =>
      rw [List.flatMap_cons, List.filter_append, ih, plan_python, List.filter_cons]
      split_ifs <;> simp [entityPlan, repositoryPlan, enumPlan]

theorem filter_enum_plans (options : RenderOptions) (entities : List Entity) :
    (entities.flatMap (plan pythonSet options)).filter (·.kind = .enum) =
      if options.emitEnums then entities.flatMap fun e => e.enums.map (enumPlan e) else [] := by
  rw [List.filter_flatMap]
  split_ifs with hemit
  · refine List.flatMap_congr fun e _ => ?_
    rw [plan_python, if_pos hemit]
    split_ifs <;> simp [entityPlan, repositoryPlan, enumPlan]
  · rw [List.flatMap_eq_nil_iff]
    intro e _
    rw [plan_python, if_neg hemit]
    split_ifs <;> simp [entityPlan, repositoryPlan]

/-- The file names of the artifacts of one kind. -/
def fileNames (options : RenderOptions) (entities : List Entity) (kind : ArtifactKind) :
    List String :=
  ((entities.flatMap (plan pythonSet options)).filter (·.kind = kind)).map fun p => snake p.name

/-- Paths are distinct when the file names of each kind are. -/
theorem nodup_artifactPaths_iff_fileNames (options : RenderOptions) (entities : List Entity) :
    (artifactPaths pythonSet options entities).Nodup ↔
      ∀ kind, (fileNames options entities kind).Nodup := by
  have hkind : ∀ p q : Plan, pythonSet.relativePath p.kind p.name =
      pythonSet.relativePath q.kind q.name → p.kind = q.kind := by
    intro p q h
    rw [relativePath_python, relativePath_python] at h
    exact kind_of_modulePath_eq h
  rw [artifactPaths, nodup_map_iff_of_parts hkind]
  refine forall_congr' fun kind => ?_
  have hpaths : ((entities.flatMap (plan pythonSet options)).filter (·.kind = kind)).map
      (fun p => pythonSet.relativePath p.kind p.name) =
      (fileNames options entities kind).map (modulePath kind) := by
    rw [fileNames, List.map_map]
    refine List.map_congr_left fun p hp => ?_
    have hpkind := of_decide_eq_true (List.mem_filter.mp hp).2
    rw [relativePath_python, hpkind]
    rfl
  rw [hpaths, List.nodup_map_iff (modulePath_injective kind)]

end Plans

section Distinct

variable {options : RenderOptions} {entities : List Entity}

/-- The repository of an entity is named after it. -/
def NamesRepository (e : Entity) : Prop :=
  e.companion = none ∨ e.companion = some (Normalizer.repositoryName e.typeName)

theorem nodup_repositoryFiles
    (hcompanion : ∀ e ∈ entities, NamesRepository e)
    (hentities : (entities.map fun e => snake e.typeName).Nodup) :
    (fileNames options entities .repository).Nodup := by
  rw [fileNames, filter_repository_plans, List.map_map]
  have hfiltered := ((List.pairwise_map.mp hentities).filter (hasRepository options))
  refine List.pairwise_map.mpr (hfiltered.imp_of_mem ?_)
  intro d e hd he hne heq
  have hname : ∀ f ∈ entities.filter (hasRepository options),
      (repositoryPlan f).name = Normalizer.repositoryName f.typeName := by
    intro f hf
    obtain ⟨hmem, hhas⟩ := List.mem_filter.mp hf
    rcases hcompanion f hmem with hnone | hsome
    · rw [hasRepository, hnone, Option.map_none, Option.getD_none, Bool.and_false] at hhas
      cases hhas
    · rw [repositoryPlan, hsome, Option.getD_some]
  apply hne
  apply snake_eq_of_repositoryName
  rw [← hname d hd, ← hname e he]
  exact heq

/-- Paths are distinct when the file names of entities are, and those of enum types. -/
theorem nodup_artifactPaths_iff_typeNames
    (hcompanion : ∀ e ∈ entities, NamesRepository e) (options : RenderOptions) :
    (artifactPaths pythonSet options entities).Nodup ↔
      (entities.map fun e => snake e.typeName).Nodup ∧
      (options.emitEnums = true →
        (entities.flatMap fun e => e.enums.map fun t => snake t.typeName).Nodup) := by
  have hentities : fileNames options entities .entity =
      entities.map fun e => snake e.typeName := by
    rw [fileNames, filter_entity_plans, List.map_map]
    rfl
  have henums : (fileNames options entities .enum).Nodup ↔ (options.emitEnums = true →
      (entities.flatMap fun e => e.enums.map fun t => snake t.typeName).Nodup) := by
    rw [fileNames, filter_enum_plans]
    split_ifs with hemit
    · rw [List.map_flatMap]
      simp only [List.map_map, hemit, forall_const]
      rfl
    · simp [hemit]
  rw [nodup_artifactPaths_iff_fileNames, ← hentities, ← henums]
  constructor
  · exact fun h => ⟨h .entity, h .enum⟩
  · rintro ⟨hentity, henum⟩ kind
    cases kind with
    | entity => exact hentity
    | repository => exact nodup_repositoryFiles hcompanion (hentities ▸ hentity)
    | enum => exact henum

end Distinct

section Runs

variable {a : Assembler} {names : List String} {tables : List Table}
variable {failures : List (String × String)} {result : Assembly}

theorem namesRepository_of_mem
    (h : a.assemble names tables failures = .ok result) : ∀ e ∈ result.entities,
      NamesRepository e := by
  obtain ⟨candidates, -, hall⟩ := Assembler.exists_linkedFrom h
  intro e he
  obtain ⟨table, source, pair, hfrom, rfl⟩ := hall e he
  obtain ⟨-, enums, columns, -, -, hsource⟩ := Assembler.extract_ok hfrom.extract
  rw [hfrom.closed, hsource]
  cases hrepository : a.generateRepository with
  | true => exact Or.inr rfl
  | false => exact Or.inl rfl

/-- The paths of a run are pairwise distinct exactly when the type names of its entities have
distinct file names, and those of the enum types that are generated. -/
theorem nodup_artifactPaths_iff
    (h : a.assemble names tables failures = .ok result) (options : RenderOptions) :
    (artifactPaths pythonSet options result.entities).Nodup ↔
      (result.entities.map fun e => snake e.typeName).Nodup ∧
      (options.emitEnums = true →
        (result.entities.flatMap fun e => e.enums.map fun t => snake t.typeName).Nodup) :=
  nodup_artifactPaths_iff_typeNames (namesRepository_of_mem h) options

/-- When the preferred names of all types have distinct file names, every type keeps its preferred
name, and the file names that it leads to are distinct. -/
theorem nodup_files_of_preferred
    {candidates : List (String × String)}
    (h : a.assemble names tables failures = .ok result)
    (hcandidates : a.typeCandidates (Assembler.tablesByName tables) = .ok candidates)
    (hplain : ∀ table ∈ tables, '.' ∉ table.name.toList)
    (hfiles : (candidates.map fun c => snake c.2).Nodup) :
    ((result.entities.flatMap Entity.typeNames).map snake).Nodup := by
  obtain ⟨candidates', hcandidates', hkeys, hnames⟩ := typeNames_eq_map h
  obtain rfl := Except.ok.inj (hcandidates.symm.trans hcandidates')
  have hlone : ∀ raw raw' base, (raw, base) ∈ candidates → (raw', base) ∈ candidates →
      raw = raw' := by
    intro raw raw' base hraw hraw'
    exact congrArg Prod.fst (List.inj_on_of_nodup_map hfiles hraw hraw' rfl)
  have hgiven : ∀ key ∈ result.entities.flatMap Entity.typeKeys, ∃ base,
      (key, base) ∈ candidates ∧ lookup? (Assembler.runTypeNames candidates) key = some base := by
    intro key hkey
    exact Scope.lookup?_assign_of_lone hlone (fun _ _ => List.not_mem_nil) (hkeys hkey)
  rw [hnames, List.map_map]
  refine List.Nodup.map_on ?_ (nodup_typeKeys_of_plain h hplain)
  intro key hkey key' hkey' heq
  obtain ⟨base, hpair, hbase⟩ := hgiven key hkey
  obtain ⟨base', hpair', hbase'⟩ := hgiven key' hkey'
  simp only [Function.comp_apply, hbase, hbase', Option.getD_some] at heq
  exact congrArg Prod.fst (List.inj_on_of_nodup_map hfiles hpair hpair' heq)

theorem files_of_typeNames {entities : List Entity}
    (h : ((entities.flatMap Entity.typeNames).map snake).Nodup) :
    (entities.map fun e => snake e.typeName).Nodup ∧
    (entities.flatMap fun e => e.enums.map fun t => snake t.typeName).Nodup := by
  have hentities : (entities.map Entity.typeName).Sublist (entities.flatMap Entity.typeNames) := by
    rw [List.map_eq_flatMap]
    exact List.Sublist.flatMap_right entities fun e _ => (List.nil_sublist _).cons_cons e.typeName
  have henums : (entities.flatMap fun e => e.enums.map EnumType.typeName).Sublist
      (entities.flatMap Entity.typeNames) :=
    List.Sublist.flatMap_right entities fun e _ => List.sublist_cons_self e.typeName _
  have hfirst := h.sublist (hentities.map snake)
  have hsecond := h.sublist (henums.map snake)
  rw [List.map_map] at hfirst
  rw [List.map_flatMap] at hsecond
  simp only [List.map_map] at hsecond
  exact ⟨hfirst, hsecond⟩

/-- The paths of a run are distinct when its preferred type names have distinct file names and no
table name has a dot: what can be checked of a catalog before anything is assembled. -/
theorem nodup_artifactPaths_of_preferred
    {candidates : List (String × String)}
    (h : a.assemble names tables failures = .ok result)
    (hcandidates : a.typeCandidates (Assembler.tablesByName tables) = .ok candidates)
    (hplain : ∀ table ∈ tables, '.' ∉ table.name.toList)
    (hfiles : (candidates.map fun c => snake c.2).Nodup) (options : RenderOptions) :
    (artifactPaths pythonSet options result.entities).Nodup := by
  obtain ⟨hentities, henums⟩ :=
    files_of_typeNames (nodup_files_of_preferred h hcandidates hplain hfiles)
  exact (nodup_artifactPaths_iff_typeNames (namesRepository_of_mem h) options).mpr
    ⟨hentities, fun _ => henums⟩

theorem enumTypeName_listed : forPython.normalizer.enumTypeName "a" "b" = "ABEnum" := by cbv

theorem typeCandidates_listed :
    forPython.typeCandidates (Assembler.tablesByName [listed]) =
      .ok [("a", "A"), ("a.b", "ABEnum")] := by
  have hown : forPython.normalizer.typeName listed.name = .ok "A" := by cbv
  have henum : enumTypeCandidates forPython.normalizer listed = [("a.b", "ABEnum")] := by
    rw [enumTypeCandidates, considered_listed]
    show [(enumScopeKey "a" "b", forPython.normalizer.enumTypeName "a" "b")] = _
    rw [enumTypeName_listed]
    rfl
  rw [Assembler.tablesByName_singleton, Assembler.typeCandidates, List.mapM_cons, hown]
  simp only [henum]
  rfl

/-- A table with an enum type has three paths. -/
theorem nodup_artifactPaths_of_listed :
    ∃ result, forPython.assemble ["a"] [listed] [] = .ok result ∧
      (artifactPaths pythonSet {} result.entities).Nodup := by
  have hsources : ∀ table ∈ [listed], ∀ key ∈ table.foreignKeys, key.sourceColumns ≠ [] := by
    decide
  have hdistinct : ([("a", "A"), ("a.b", "ABEnum")].map fun c => snake c.2).Nodup := by
    have hfiles : [("a", "A"), ("a.b", "ABEnum")].map (fun c => snake c.2) = ["a", "ab_enum"] := by
      cbv
    rw [hfiles]
    decide
  obtain ⟨result, h⟩ := Assembler.assemble_total (a := forPython) (typeName_total rfl) hsources
    ["a"] []
  obtain ⟨hentities, henums⟩ :=
    files_of_typeNames (nodup_files_of_preferred h typeCandidates_listed (by decide) hdistinct)
  exact ⟨result, h, (nodup_artifactPaths_iff h {}).mpr ⟨hentities, fun _ => henums⟩⟩

/-- A table whose name is one word. -/
def joined : Table := { name := "ab", columns := [{ name := "id", nativeType := "int" }] }

/-- A table whose name is two words of one letter. -/
def spaced : Table := { name := "a_b", columns := [{ name := "id", nativeType := "int" }] }

theorem considered_of_unlisted {table : Table} (h : table.valueLists = []) :
    consideredLists table = [] := by
  simp [consideredLists, h]

theorem typeName_joined : forPython.normalizer.typeName joined.name = .ok "Ab" := by cbv

theorem typeName_spaced : forPython.normalizer.typeName spaced.name = .ok "AB" := by cbv

/-- The only preferred names of a run of the two tables are their own. -/
theorem preferred_of_joined {candidates : List (String × String)}
    (h : forPython.typeCandidates (Assembler.tablesByName [joined, spaced]) = .ok candidates)
    {raw base : String} (hpair : (raw, base) ∈ candidates) :
    (raw = "ab" ∧ base = "Ab") ∨ (raw = "a_b" ∧ base = "AB") := by
  obtain ⟨table, htable, hown⟩ := (mem_typeCandidates h _).mp hpair
  have hmem := Assembler.mem_of_keptTable? (Assembler.mem_tablesByName.mp htable)
  have hunlisted : table.valueLists = [] := by
    rcases List.mem_pair.mp hmem with rfl | rfl
    · rfl
    · rfl
  rcases hown with ⟨typeName, htype, heq⟩ | ⟨-, henum⟩
  · obtain ⟨rfl, rfl⟩ := Prod.mk.inj heq
    rcases List.mem_pair.mp hmem with rfl | rfl
    · exact Or.inl ⟨rfl, Except.ok.inj (htype.symm.trans typeName_joined)⟩
    · exact Or.inr ⟨rfl, Except.ok.inj (htype.symm.trans typeName_spaced)⟩
  · rw [enumTypeCandidates, considered_of_unlisted hunlisted] at henum
    exact absurd henum List.not_mem_nil

/-- Two tables with different names whose entities have one path. -/
theorem artifactPaths_of_joined :
    ([joined, spaced].map (·.name)).Nodup ∧
    forPython.normalizer = pythonSet.normalizer false ∧
    ∃ result, forPython.assemble ["a_b", "ab"] [joined, spaced] [] = .ok result ∧
      ¬ (artifactPaths pythonSet {} result.entities).Nodup := by
  have hsources : ∀ table ∈ [joined, spaced], ∀ key ∈ table.foreignKeys,
      key.sourceColumns ≠ [] := by decide
  obtain ⟨result, h⟩ := Assembler.assemble_total (a := forPython) (typeName_total rfl) hsources
    ["a_b", "ab"] []
  have hextract : ∀ table ∈ [joined, spaced], ∀ typeNames, ∃ e, (forPython.extract typeNames
      (Assembler.tablesByName [joined, spaced]) table).2 = .ok e := by
    intro table htable typeNames
    rcases List.mem_pair.mp htable with rfl | rfl
    · rw [Assembler.extract, Assembler.tableEnums, enumTypes, considered_of_unlisted rfl]
      exact ⟨_, rfl⟩
    · rw [Assembler.extract, Assembler.tableEnums, enumTypes, considered_of_unlisted rfl]
      exact ⟨_, rfl⟩
  obtain ⟨d, hd, hdname⟩ := Assembler.exists_entity h rfl (hextract joined (by simp))
  obtain ⟨e, he, hename⟩ := Assembler.exists_entity h rfl (hextract spaced (by simp))
  refine ⟨by decide, rfl, result, h, fun hnodup => ?_⟩
  obtain ⟨candidates, hcandidates, heach⟩ := typeNames_of_mem h
  have hlone : ∀ raw raw' base, (raw, base) ∈ candidates → (raw', base) ∈ candidates →
      raw = raw' := by
    intro raw raw' base hraw hraw'
    rcases preferred_of_joined hcandidates hraw with ⟨rfl, rfl⟩ | ⟨rfl, rfl⟩
    · rcases preferred_of_joined hcandidates hraw' with ⟨rfl, -⟩ | ⟨-, hne⟩
      · rfl
      · exact absurd hne (by decide)
    · rcases preferred_of_joined hcandidates hraw' with ⟨-, hne⟩ | ⟨rfl, -⟩
      · exact absurd hne (by decide)
      · rfl
  have hname : ∀ e ∈ result.entities, (e.name, e.typeName) ∈ candidates := by
    intro e he
    obtain ⟨hkeys, hnames⟩ := heach e he
    obtain ⟨base, hpair, hbase⟩ := Scope.lookup?_assign_of_lone hlone
      (fun _ _ => List.not_mem_nil) (hkeys (List.mem_cons_self ..))
    have hown : e.typeName = (lookup? (Scope.assign {} candidates).1 e.name).getD "" :=
      (List.cons.inj hnames).1
    rw [hbase, Option.getD_some] at hown
    rwa [hown]
  have hfile : snake d.typeName = snake e.typeName := by
    rcases preferred_of_joined hcandidates (hname d hd) with ⟨-, hdtype⟩ | ⟨hwrong, -⟩
    · rcases preferred_of_joined hcandidates (hname e he) with ⟨hwrong, -⟩ | ⟨-, hetype⟩
      · exact absurd (hename.symm.trans hwrong) (by decide)
      · rw [hdtype, hetype]
        cbv
    · exact absurd (hdname.symm.trans hwrong) (by decide)
  have hfiles := ((nodup_artifactPaths_iff_typeNames (namesRepository_of_mem h) _).mp hnodup).1
  have hsame := List.inj_on_of_nodup_map hfiles hd he hfile
  rw [hsame, hename] at hdname
  exact absurd hdname (by decide)

end Runs

end Emit
end TableCast
