import TableCast.Proofs.Emit.ArtifactPaths
import TableCast.Proofs.Emit.CommentLines
import TableCast.Proofs.Emit.ImportLines
import TableCast.Proofs.Model.NameRules
import TableCast.Settings.Configuration

/-!
# The imports of generated modules are closed

An import names a module and a type, and the path of an artifact is made elsewhere, from its kind
and its type.  Both agree: whatever a module of a run imports, besides the standard library, is
planned in that run under the path of that module.  And the types that the fields of an entity name
are imported, or the entity itself is meant.

The imports are those that a reader of the code finds.  Some text of the catalog is written as it
is: the name of a table in docstrings, the comment of a column behind a number sign with its line
feeds replaced, but not its carriage returns.  So a name that closes its docstring and a comment
with a carriage return are read as code from there on, imports included.

The plural of the name of a type is written in a docstring as well.  It comes from the inflector, of
which it is only assumed that it adds no double quote to a word.

**Results.**
* `moduleName_of_isNamespace`: the namespaces that can be configured.
* `closedImport_of_plan`: the import of a planned type is closed.
* `imports_closed`: all imports of a run are closed, and its entities import what they name.
* `imports_of_remarked`: an import out of a comment.
-/

namespace TableCast
namespace Emit
namespace Python

open Text Name Model Fallible
open Schema (Table)

section Namespaces

theorem isTame_of_isIdentifierContinue {c : Char} (h : isIdentifierContinue c = true) :
    isTame c = true := by
  by_cases hascii : c.toNat < 128
  · rw [isIdentifierContinue, inClass, if_pos hascii] at h
    exact isTame_of_plain h
  · exact isTame_of_beyond (by omega)

theorem isTame_of_isIdentifierStart {c : Char} (h : isIdentifierStart c = true) :
    isTame c = true := by
  by_cases hascii : c.toNat < 128
  · rw [isIdentifierStart, inClass, if_pos hascii, Bool.or_eq_true] at h
    refine isTame_of_plain ?_
    rcases h with hletter | hunderscore
    · rw [isPlain, hletter, Bool.true_or, Bool.true_or]
    · rw [isPlain, hunderscore, Bool.or_true]
  · exact isTame_of_beyond (by omega)

theorem isTame_of_isIdentifier {s : String} (h : isIdentifier s = true) :
    ∀ c ∈ s.toList, isTame c = true := by
  rw [isIdentifier] at h
  cases hs : s.toList with
  | nil => exact fun c hc => absurd hc List.not_mem_nil
  | cons c cs =>
      rw [hs, Bool.and_eq_true] at h
      exact List.forall_mem_cons.mpr ⟨isTame_of_isIdentifierStart h.1,
        fun d hd => isTame_of_isIdentifierContinue (List.all_eq_true.mp h.2 d hd)⟩

/-- Every namespace that passes the check of the settings is a name of a package. -/
theorem moduleName_of_isNamespace {s : String} (h : Settings.isNamespace s = true) :
    ModuleName s := by
  have hpieces : ∀ piece ∈ splitOnChar '.' s.toList, isIdentifier (String.ofList piece) = true := by
    intro piece hpiece
    have hpart := List.all_eq_true.mp h (String.ofList piece) (List.mem_map_of_mem hpiece)
    exact (Bool.and_eq_true _ _ ▸ hpart).1
  refine ⟨?_, fun c hc => ?_⟩
  · rintro rfl
    exact absurd (hpieces [] (List.mem_singleton_self _)) (by decide)
  · by_cases hdot : c = '.'
    · rw [beq_iff_eq.mpr hdot, Bool.or_true]
    · obtain ⟨piece, hpiece, hmem⟩ := exists_mem_splitOnChar hc hdot
      have htame := isTame_of_isIdentifier (hpieces piece hpiece) c
      rw [String.toList_ofList] at htame
      rw [htame hmem, Bool.true_or]

end Namespaces

section Modules

variable {options : RenderOptions} {entities : List Entity} {i : Import} {e : Entity}

/-- A dotted module as a path. -/
def slashed (moduleName : String) : String :=
  String.ofList (moduleName.toList.map fun c => if c == '.' then '/' else c)

/-- Some artifact that is planned is the imported type, and its path is that of the module without
the namespace. -/
def ClosedImport (options : RenderOptions) (entities : List Entity) (i : Import) : Prop :=
  ∃ p ∈ entities.flatMap (plan pythonSet options), p.name = i.typeName ∧
    ∃ moduleName, i.moduleName = options.namespaceName ++ "." ++ moduleName ∧
      pythonSet.relativePath p.kind p.name = slashed moduleName ++ ".py"

theorem moduleOf_eq (hnamespace : options.namespaceName ≠ "") (e : Entity) (kind : ArtifactKind) :
    (contextFor pythonSet options e).moduleOf kind =
      options.namespaceName ++ "." ++ pythonSet.directoryOf kind := by
  have hkept : (!options.namespaceName.isEmpty) = true := by
    rw [Bool.not_eq_true', String.isEmpty_eq_false_iff]
    exact hnamespace
  have hmodule : ∀ directory, (splitOn directory '/').filter (!·.isEmpty) = [directory] →
      TemplateSet.dottedModule options.namespaceName directory =
        options.namespaceName ++ "." ++ directory := by
    intro directory hdirectory
    have hparts : (options.namespaceName :: splitOn directory '/').filter (!·.isEmpty) =
        [options.namespaceName, directory] := by
      rw [List.filter_cons, if_pos hkept, hdirectory]
    rw [TemplateSet.dottedModule, hparts]
    rfl
  cases kind with
  | entity => exact hmodule "entities" (by decide)
  | repository => exact hmodule "repositories" (by decide)
  | enum => exact hmodule "enums" (by decide)

theorem slashed_module {name : String} (kind : ArtifactKind) (hname : everyText.Spells name) :
    slashed (pythonSet.directoryOf kind ++ "." ++ name) =
      pythonSet.directoryOf kind ++ "/" ++ name := by
  have hkept : ∀ cs : List Char, '.' ∉ cs →
      cs.map (fun c => if c == '.' then '/' else c) = cs := by
    intro cs hcs
    refine (List.map_congr_left fun c hc => ?_).trans (List.map_id cs)
    have hne : (c == '.') = false := beq_eq_false_iff_ne.mpr fun h => hcs (h ▸ hc)
    rw [hne]
    rfl
  have hdirectory : '.' ∉ (pythonSet.directoryOf kind).toList := by
    cases kind with
    | entity => decide
    | repository => decide
    | enum => decide
  have hdots : '.' ∉ name.toList := fun h =>
    absurd (hname '.' h) (by show ¬ isTame '.' = true; decide)
  apply String.toList_injective
  rw [slashed, String.toList_ofList, String.toList_append, String.toList_append, List.map_append,
    List.map_append, hkept _ hdirectory, hkept _ hdots, String.toList_append, String.toList_append]
  rfl

/-- The import of a planned type is closed. -/
theorem closedImport_of_plan
    (hnamespace : options.namespaceName ≠ "") {p : Plan}
    (hp : p ∈ entities.flatMap (plan pythonSet options)) (e : Entity) :
    ClosedImport options entities
      (Import.ofType ((contextFor pythonSet options e).moduleOf p.kind) p.name) := by
  have hsnake : everyText.Spells (snake p.name) :=
    Alphabet.spells_snake (Alphabet.reads_everyText p.name)
  refine ⟨p, hp, rfl, pythonSet.directoryOf p.kind ++ "." ++ snake p.name, ?_, ?_⟩
  · rw [Import.ofType, moduleOf_eq hnamespace]
    simp only [String.append_assoc]
  · rw [relativePath_python, modulePath, slashed_module p.kind hsnake]
    simp only [String.append_assoc]

end Modules

section Runs

variable {a : Assembler} {names : List String} {tables : List Table}
variable {failures : List (String × String)} {result : Assembly}
variable {options : RenderOptions} {e : Entity} {c : Column} {l : Association}

/-- The columns of an entity are described with its own enum types. -/
theorem described_of_mem
    (h : a.assemble names tables failures = .ok result) (he : e ∈ result.entities)
    (hc : c ∈ e.columns) :
    ∃ table ∈ tables, e.name = table.name ∧ ∃ raw ∈ table.columns,
      (a.describeColumn table e.enums (a.fieldNames table) raw).2 = .ok c := by
  obtain ⟨candidates, -, hall⟩ := Assembler.exists_linkedFrom h
  obtain ⟨table, source, pair, hfrom, rfl⟩ := hall e he
  obtain ⟨-, hdescribed, -⟩ := hfrom.parts
  obtain ⟨raw, hraw, hcolumn⟩ := exists_of_mem_right (Assembler.describeColumns_ok hdescribed) hc
  exact ⟨table, Assembler.mem_of_mem_tablesByName hfrom.table_mem,
    hfrom.name, raw, hraw, hcolumn⟩

theorem mem_enums_of_column
    (h : a.assemble names tables failures = .ok result) (he : e ∈ result.entities)
    (hc : c ∈ e.columns) {t : EnumType} (henum : c.enum = some t) : t ∈ e.enums := by
  obtain ⟨table, -, -, raw, -, hcolumn⟩ := described_of_mem h he hc
  obtain ⟨value, -, rfl⟩ := map_eq_ok.mp hcolumn
  exact List.mem_of_find?_eq_some henum

/-- The names of value constants are spelled: they are assigned like other names. -/
theorem spells_constants
    (h : a.assemble names tables failures = .ok result) (he : e ∈ result.entities)
    (hc : c ∈ e.columns) : ∀ v ∈ c.valueConstants, everyText.Spells v.1 := by
  obtain ⟨table, -, -, raw, -, hcolumn⟩ := described_of_mem h he hc
  obtain ⟨value, -, rfl⟩ := map_eq_ok.mp hcolumn
  have hconstants : ∀ values : Schema.ValueList, ∀ v ∈ valueConstants values,
      everyText.Spells v.1 := by
    intro values v hv
    obtain ⟨own, hown, rfl⟩ := List.mem_map.mp hv
    have hkey : own ∈ keys (values.values.map fun v => (v, enumCase (values.column ++ "_" ++ v))) :=
      List.mem_map.mpr ⟨_, List.mem_map_of_mem (List.mem_eraseDups.mp hown), rfl⟩
    obtain ⟨name, hname, base, hpair, hroute⟩ := Scope.exists_route {} hkey
    obtain ⟨source, -, hsource⟩ := List.mem_map.mp hpair
    have hbase : everyText.Spells base := by
      rw [← (Prod.mk.inj hsource).2]
      exact Alphabet.spells_enumCase (Alphabet.reads_everyText _)
    dsimp only
    rw [hname, Option.getD_some]
    rcases hroute with rfl | ⟨scope, rfl⟩
    · exact hbase
    · exact Alphabet.spells_derivedName scope hbase (Alphabet.reads_everyText _)
  intro v hv
  dsimp only [typeColumn] at hv
  split at hv
  · exact absurd hv List.not_mem_nil
  · dsimp only at hv
    split_ifs at hv
    · exact absurd hv List.not_mem_nil
    · exact hconstants _ v hv
  · split_ifs at hv
    · exact absurd hv List.not_mem_nil
    · exact absurd hv List.not_mem_nil

theorem isSelf_of_mem
    (h : a.assemble names tables failures = .ok result) (he : e ∈ result.entities)
    (hl : l ∈ e.associations) : l.isSelf = (l.targetTable == e.name) := by
  obtain ⟨candidates, -, hall⟩ := Assembler.exists_linkedFrom h
  obtain ⟨table, source, pair, hfrom, rfl⟩ := hall e he
  rw [hfrom.closed] at hl
  obtain ⟨hkeys, -, -⟩ := link_ok hfrom.link
  obtain ⟨key, -, hkey⟩ := exists_of_mem_right hkeys hl
  rw [hkey.isSelf, hkey.targetTable, hfrom.closed]

/-- The target of an association is the type of an entity of the run, its own for a reference of a
table to itself. -/
theorem target_mem
    (h : a.assemble names tables failures = .ok result) (he : e ∈ result.entities)
    (hl : l ∈ e.associations) {target : String} (htarget : l.targetType = some target) :
    ∃ d ∈ result.entities, d.typeName = target ∧ (l.isSelf = true → d = e) := by
  rw [Association.targetType, (target_of_association h he hl).1, Option.map_map] at htarget
  obtain ⟨d, hd, rfl⟩ := Option.map_eq_some_iff.mp htarget
  refine ⟨d, List.mem_of_find?_eq_some hd, rfl, fun hself => ?_⟩
  rw [isSelf_of_mem h he hl, beq_iff_eq] at hself
  rw [hself, entity?_of_mem h he] at hd
  exact (Option.some.inj hd).symm

/-- What is written of an entity without quotes is read as the text that it is: its name closes no
docstring, and no comment of its columns holds a carriage return. -/
structure Confined (e : Entity) : Prop where
  name : Enclosed e.name
  comments : ∀ c ∈ e.columns, ∀ comment ∈ c.comment, '\r' ∉ comment.toList

theorem plainEntity_of_mem
    (h : a.assemble names tables failures = .ok result) (he : e ∈ result.entities)
    (hname : Enclosed e.name) : PlainEntity e := by
  have hnames := spelledNames_of_mem h he
  have henums : ∀ t ∈ e.enums, everyText.Spells t.typeName := fun t ht =>
    hnames.types t.typeName (List.mem_cons_of_mem _ (List.mem_map_of_mem ht))
  refine ⟨hname, hnames.types e.typeName (List.mem_cons_self ..),
    fun c hc => ⟨?_, fun t henum => ?_, spells_constants h he hc⟩,
    fun l hl => ⟨hnames.associations l hl, fun target htarget => ?_⟩, henums⟩
  · exact hnames.fields c.fieldName (List.mem_map_of_mem hc)
  · have ht := mem_enums_of_column h he hc henum
    exact ⟨henums t ht, hnames.cases t ht⟩
  · obtain ⟨d, hd, rfl, -⟩ := target_mem h he hl htarget
    exact (spelledNames_of_mem h hd).types d.typeName (List.mem_cons_self ..)

theorem spells_companion
    (h : a.assemble names tables failures = .ok result) (he : e ∈ result.entities) :
    everyText.Spells (e.companion.getD "") := by
  rcases namesRepository_of_mem h e he with hnone | hsome
  · rw [hnone]
    exact Alphabet.spells_of_plain rfl
  · rw [hsome, Option.getD_some, Normalizer.repositoryName]
    exact ((spelledNames_of_mem h he).types e.typeName (List.mem_cons_self ..)).append
      (Alphabet.spells_of_plain rfl)

theorem moduleName_moduleOf (hnamespace : ModuleName options.namespaceName) (e : Entity)
    (kind : ArtifactKind) : ModuleName ((contextFor pythonSet options e).moduleOf kind) := by
  have hdirectory : (("." ++ pythonSet.directoryOf kind).toList.all fun c =>
      isTame c || c == '.') = true := by
    cases kind with
    | entity => rfl
    | repository => rfl
    | enum => rfl
  rw [moduleOf_eq hnamespace.nonempty, String.append_assoc]
  refine ⟨fun hempty => ?_, ?_⟩
  · have hchars := congrArg String.toList hempty
    rw [String.toList_append, String.toList_append] at hchars
    exact absurd (List.append_eq_nil_iff.mp hchars).2 (List.cons_ne_nil _ _)
  · rw [String.toList_append]
    exact List.forall_mem_append.mpr ⟨hnamespace.dotted, List.all_eq_true.mp hdirectory⟩

theorem mem_plans (he : e ∈ result.entities) {p : Plan} (hp : p ∈ plan pythonSet options e) :
    p ∈ result.entities.flatMap (plan pythonSet options) :=
  List.mem_flatMap.mpr ⟨e, he, hp⟩

/-- The import of an entity of the run is closed. -/
theorem closedImport_of_entity
    (hnamespace : options.namespaceName ≠ "") {d : Entity} (hd : d ∈ result.entities)
    (e : Entity) : ClosedImport options result.entities
      (Import.ofType ((contextFor pythonSet options e).moduleOf .entity) d.typeName) := by
  refine closedImport_of_plan hnamespace (p := entityPlan d) (mem_plans hd ?_) e
  rw [plan_python]
  exact List.mem_append_left _ (List.mem_cons_self ..)

/-- What an entity imports for its enum types is closed. -/
theorem closedImport_of_enumImports
    (hnamespace : options.namespaceName ≠ "") (he : e ∈ result.entities) {i : Import}
    (hi : i ∈ enumImports (contextFor pythonSet options e) e) :
    ClosedImport options result.entities i := by
  rw [enumImports] at hi
  split_ifs at hi with hemit
  · obtain ⟨t, ht, rfl⟩ := List.mem_map.mp hi
    refine closedImport_of_plan hnamespace (p := enumPlan e t) (mem_plans he ?_) e
    have hemit' : options.emitEnums = true := hemit
    rw [plan_python, if_pos hemit']
    exact List.mem_append_right _ (List.mem_map_of_mem ht)
  · exact absurd hi List.not_mem_nil

/-- What an entity imports for its links is closed. -/
theorem closedImport_of_entityImports
    (h : a.assemble names tables failures = .ok result) (hnamespace : options.namespaceName ≠ "")
    (he : e ∈ result.entities) {i : Import}
    (hi : i ∈ entityImports (contextFor pythonSet options e) e) :
    ClosedImport options result.entities i := by
  obtain ⟨typeName, htype, rfl⟩ := List.mem_map.mp hi
  obtain ⟨l, hl, htarget⟩ := List.mem_filterMap.mp (Scope.mem_sortedDistinct.mp htype)
  obtain ⟨d, hd, rfl, -⟩ := target_mem h he (List.mem_of_mem_filter hl) htarget
  exact closedImport_of_entity hnamespace hd e

/-- A text imports a type. -/
def ImportsType (text typeName : String) : Prop :=
  ∃ i : Import, i.typeName = typeName ∧ i.statement ∈ importsOf text

/-- A text has the class of an entity and its fields, and it declares or imports every generated
type that their annotations and defaults name. -/
structure ImportsItsTypes (e : Entity) (text : String) : Prop where
  ownType : IsCodeLine text ("class " ++ e.typeName ++ ":")
  columns : ∀ c ∈ e.columns, IsCodeLine text (memberLine c.fieldName (fieldType c)) ∧
    ∀ typeName ∈ (fieldType c).types, typeName = e.typeName ∨ ImportsType text typeName
  defaults : ∀ c ∈ e.columns, ∀ t ∈ defaultTerm c, IsCodeLine text (defaultLine t) ∧
    ∀ typeName ∈ t.types, typeName = e.typeName ∨ ImportsType text typeName
  associations : ∀ l ∈ e.associations, IsCodeLine text (memberLine l.name (linkType l)) ∧
    ∀ typeName ∈ (linkType l).types, typeName = e.typeName ∨ ImportsType text typeName

theorem emitEnums_of_mem
    (h : a.assemble names tables failures = .ok result) (he : e ∈ result.entities) {t : EnumType}
    (ht : t ∈ e.enums) : a.emitEnums = true := by
  obtain ⟨candidates, -, hall⟩ := Assembler.exists_linkedFrom h
  obtain ⟨table, source, pair, hfrom, rfl⟩ := hall e he
  rcases builtFrom_of_tableEnums hfrom.parts.1 with ⟨hemit, -⟩ | ⟨-, hnil⟩
  · exact hemit
  · rw [hnil] at ht
    exact absurd ht List.not_mem_nil

section OneEntity

variable (h : a.assemble names tables failures = .ok result) (he : e ∈ result.entities)
variable (hemit : options.emitEnums = a.emitEnums)
variable (hnamespace : ModuleName options.namespaceName) (hname : Enclosed e.name)
variable {P : String → Prop}
variable (hlines : ∀ line ∈ entityLines (contextFor pythonSet options e) e, ImportsOnly P line)

include h he hnamespace hname hlines

/-- The enum type of a column is imported at the head of the module. -/
theorem importsType_of_enum (hemit : options.emitEnums = a.emitEnums) {c : Column} {t : EnumType}
    (hc : c ∈ e.columns) (hct : c.enum = some t) :
    ImportsType (entityText (contextFor pythonSet options e) e) t.typeName := by
  have ht := mem_enums_of_column h he hc hct
  have hemitted : (contextFor pythonSet options e).emitEnums = true :=
    hemit.trans (emitEnums_of_mem h he ht)
  have hi : Import.ofType ((contextFor pythonSet options e).moduleOf .enum) t.typeName ∈
      enumImports (contextFor pythonSet options e) e := by
    rw [enumImports, if_pos hemitted]
    exact List.mem_map_of_mem ht
  exact ⟨_, rfl, imported_of_enumImports (moduleName_moduleOf hnamespace e)
    (plainEntity_of_mem h he hname) hlines hi⟩

/-- The target of an association is the entity itself, or it is imported for the type checker. -/
theorem importsType_of_link {l : Association} (hl : l ∈ e.associations) {typeName : String}
    (htype : typeName ∈ (linkType l).types) :
    typeName = e.typeName ∨
      ImportsType (entityText (contextFor pythonSet options e) e) typeName := by
  have htarget := mem_types_linkType htype
  obtain ⟨d, -, rfl, hself⟩ := target_mem h he hl htarget
  by_cases hown : l.isSelf = true
  · exact Or.inl (by rw [hself hown])
  · have hlinked : l ∈ e.associations.filter fun l => !l.isSelf :=
      List.mem_filter.mpr ⟨hl, by rw [Bool.eq_false_iff.mpr hown]; rfl⟩
    have hi : Import.ofType ((contextFor pythonSet options e).moduleOf .entity) d.typeName ∈
        entityImports (contextFor pythonSet options e) e :=
      List.mem_map_of_mem (Scope.mem_sortedDistinct.mpr
        (List.mem_filterMap.mpr ⟨l, hlinked, htarget⟩))
    exact Or.inr ⟨_, rfl, imported_of_entityImports (moduleName_moduleOf hnamespace e)
      (plainEntity_of_mem h he hname) hlines hi⟩

theorem importsItsTypes_of_mem (hemit : options.emitEnums = a.emitEnums) :
    ImportsItsTypes e (entityText (contextFor pythonSet options e) e) := by
  have hcode : ∀ line ∈ entityLines (contextFor pythonSet options e) e,
      IsCodeLine (entityText (contextFor pythonSet options e) e) line := fun line hline =>
    isCodeLine_unlines hlines hline
  have hcolumn : ∀ c ∈ e.columns, ∀ line ∈ columnLines c,
      IsCodeLine (entityText (contextFor pythonSet options e) e) line := by
    intro c hc line hline
    refine hcode line ?_
    simp only [entityLines, List.mem_append]
    exact Or.inl (Or.inr (List.mem_flatMap.mpr ⟨c, hc, hline⟩))
  constructor
  case ownType =>
    refine hcode _ ?_
    simp [entityLines, tableLines]
  case columns =>
    refine fun c hc => ⟨hcolumn c hc _ (memberLine_mem_columnLines c), fun typeName htype => ?_⟩
    obtain ⟨t, hct, rfl⟩ := mem_types_fieldType htype
    exact Or.inr (importsType_of_enum h he hnamespace hname hlines hemit hc hct)
  case defaults =>
    refine fun c hc term hterm =>
      ⟨hcolumn c hc _ (defaultLine_mem_columnLines hterm), fun typeName htype => ?_⟩
    obtain ⟨t, hct, rfl⟩ := mem_types_defaultTerm hterm htype
    exact Or.inr (importsType_of_enum h he hnamespace hname hlines hemit hc hct)
  case associations =>
    refine fun l hl => ⟨hcode _ ?_, fun typeName htype =>
      importsType_of_link h he hnamespace hname hlines hl htype⟩
    simp only [entityLines, List.mem_append]
    exact Or.inr (List.mem_flatMap.mpr ⟨l, hl, memberLine_mem_associationLines l⟩)

end OneEntity

/-- What a module of a run may import: names of the standard library, or a type whose import is
closed. -/
def ClosedStatement (options : RenderOptions) (entities : List Entity) (s : String) : Prop :=
  StandardImport s ∨ ∃ i, ClosedImport options entities i ∧ s = i.statement

theorem closedStatement_of_entity
    (h : a.assemble names tables failures = .ok result) (hnamespace : options.namespaceName ≠ "")
    (he : e ∈ result.entities) {s : String}
    (hs : EntityImport (contextFor pythonSet options e) e s) :
    ClosedStatement options result.entities s := by
  rcases hs with hstandard | ⟨i, hi, rfl⟩ | ⟨i, hi, rfl⟩
  · exact Or.inl hstandard
  · exact Or.inr ⟨i, closedImport_of_enumImports hnamespace he hi, rfl⟩
  · exact Or.inr ⟨i, closedImport_of_entityImports h hnamespace he hi, rfl⟩

theorem closedStatement_of_repository
    (hnamespace : options.namespaceName ≠ "") (he : e ∈ result.entities) {s : String}
    (hs : RepositoryImport (contextFor pythonSet options e) e s) :
    ClosedStatement options result.entities s := by
  rcases hs with hstandard | rfl
  · exact Or.inl hstandard
  · exact Or.inr ⟨_, closedImport_of_entity hnamespace he e, rfl⟩

/-- What is assumed of an inflector: the plural of a word without double quotes has none. -/
def AddsNoQuote (inflector : Plural.Inflector) : Prop :=
  ∀ word many, inflector.plural word = .ok many → '"' ∉ word.toList → '"' ∉ many.toList

theorem not_mem_pluralOrEmpty {inflector : Plural.Inflector} (hinflector : AddsNoQuote inflector)
    {word many : String} (hmany : Plural.pluralOrEmpty word inflector = .ok many)
    (hword : '"' ∉ word.toList) : '"' ∉ many.toList := by
  rw [Plural.pluralOrEmpty] at hmany
  split_ifs at hmany
  · rw [← Except.ok.inj hmany]
    decide
  · obtain ⟨image, himage, hmany⟩ := bind_eq_ok.mp hmany
    rw [← pure_eq_ok.mp hmany]
    split_ifs
    · rw [String.toList_append, List.mem_append, not_or]
      exact ⟨hword, by decide⟩
    · exact hinflector word image himage hword

/-- The imports of a run are closed, unless a text of the catalog that is written as it is leaves
its docstring or its comment.  Every import in a module of an entity or of a repository is one of
the standard library, or it names a type that is planned in the run under the path of the imported
module.  And the module of an entity declares or imports every generated type that its fields
name. -/
theorem imports_closed
    (h : a.assemble names tables failures = .ok result)
    (hemit : options.emitEnums = a.emitEnums) (hnamespace : ModuleName options.namespaceName)
    (hinflector : AddsNoQuote options.inflector)
    (hconfined : ∀ e ∈ result.entities, Confined e) :
    (∀ p ∈ result.entities.flatMap (plan pythonSet options), p.kind ≠ .enum → ∀ text,
      rawText pythonSet (contextFor pythonSet options p.entity) p = .ok text →
        ∀ s ∈ importsOf text, ClosedStatement options result.entities s) ∧
    ∀ e ∈ result.entities,
      ImportsItsTypes e (entityText (contextFor pythonSet options e) e) := by
  have hplain := fun e he => plainEntity_of_mem h he (hconfined e he).name
  have hlines : ∀ e ∈ result.entities, ∀ line ∈ entityLines (contextFor pythonSet options e) e,
      ImportsOnly (ClosedStatement options result.entities) line := fun e he =>
    importsOnly_entityLines (moduleName_moduleOf hnamespace e) (hplain e he)
      (fun s hs => closedStatement_of_entity h hnamespace.nonempty he hs)
      fun c hc => importsOnly_commentLines ((hconfined e he).comments c hc)
  refine ⟨fun p hp hkind text htext => ?_, fun e he =>
    importsItsTypes_of_mem h he hnamespace (hconfined e he).name (hlines e he) hemit⟩
  obtain ⟨e, he, hp⟩ := List.mem_flatMap.mp hp
  rw [plan_python] at hp
  rcases List.mem_append.mp hp with hp | hp
  · rcases List.mem_cons.mp hp with rfl | hp
    · have hentity : entityText (contextFor pythonSet options e) e = text := Except.ok.inj htext
      rw [← hentity]
      exact (importsAre_of_forall (hlines e he)).importsOf
    · split_ifs at hp
      · obtain rfl := List.mem_singleton.mp hp
        obtain ⟨plural, hplural, hunlines⟩ := bind_eq_ok.mp (mapError_eq_ok.mp htext)
        have hown : Plural.pluralOrEmpty e.typeName options.inflector = .ok plural := hplural
        have hquote : '"' ∉ plural.toList := not_mem_pluralOrEmpty hinflector hown
          (quote_not_mem_of_spells (hplain e he).typeName)
        rw [← pure_eq_ok.mp hunlines]
        intro s hs
        exact closedStatement_of_repository hnamespace.nonempty he
          ((importsAre_repositoryLines (moduleName_moduleOf hnamespace e) (hplain e he)
            (spells_companion h he) (enclosed_of_not_mem hquote)).importsOf s hs)
      · exact absurd hp List.not_mem_nil
  · split_ifs at hp
    · obtain ⟨t, -, rfl⟩ := List.mem_map.mp hp
      exact absurd rfl hkind
    · exact absurd hp List.not_mem_nil

/-- An inflector that takes every noun for a regular one. -/
def regular : Plural.Inflector :=
  { plural := fun word => .ok (word ++ "s"), singular? := fun _ => .ok none }

theorem addsNoQuote_regular : AddsNoQuote regular := by
  intro word many hmany hword
  rw [← Except.ok.inj hmany, String.toList_append, List.mem_append, not_or]
  exact ⟨hword, by decide⟩

/-- A table with a value list, a comment and a reference to itself. -/
def tag : Table :=
  { name := "tag"
    columns := [
      { name := "kind", nativeType := "text", comment := some "as\nsold" },
      { name := "over_id", nativeType := "int" }]
    valueLists := [{ column := "kind", values := ["x"] }]
    foreignKeys := [
      { name := "", sourceColumns := ["over_id"], targetTable := "tag",
        targetColumns := ["over_id"] }] }

theorem considered_tag : consideredLists tag = [{ column := "kind", values := ["x"] }] := by
  simp [consideredLists, tag, isDeclaredColumn]

theorem enumCases_tag (table column : Option String) :
    forPython.normalizer.enumCases ["x"] table column = .ok [("x", "X")] := by cbv

theorem confined_of_table
    {table : Table} (h : a.assemble names [table] failures = .ok result)
    (hname : Enclosed table.name)
    (hcomments : ∀ raw ∈ table.columns,
      ∀ comment ∈ columnComment raw (declaredList? table raw.name), '\r' ∉ comment.toList) :
    ∀ e ∈ result.entities, Confined e := by
  intro e he
  refine ⟨?_, fun c hc comment hcomment => ?_⟩
  · obtain ⟨candidates, -, hall⟩ := Assembler.exists_linkedFrom h
    obtain ⟨own, source, pair, hfrom, rfl⟩ := hall e he
    have hown := Assembler.mem_of_mem_tablesByName hfrom.table_mem
    rw [hfrom.name, List.mem_singleton.mp hown]
    exact hname
  · obtain ⟨own, hown, -, raw, hraw, hcolumn⟩ := described_of_mem h he hc
    obtain rfl := List.mem_singleton.mp hown
    rw [comment_of_describeColumn hcolumn] at hcomment
    exact hcomments raw hraw comment hcomment

theorem moduleName_app : ModuleName "app" :=
  moduleName_of_isNamespace (by decide)

theorem imports_closed_of_tag :
    ∃ result, forPython.assemble ["tag"] [tag] [] = .ok result ∧
      (∀ p ∈ result.entities.flatMap (plan pythonSet { inflector := regular }), p.kind ≠ .enum →
        ∀ text, rawText pythonSet (contextFor pythonSet { inflector := regular } p.entity) p =
          .ok text →
          ∀ s ∈ importsOf text, ClosedStatement { inflector := regular } result.entities s) ∧
      ∃ e ∈ result.entities, e.name = "tag" ∧
        ImportsItsTypes e (entityText (contextFor pythonSet { inflector := regular } e) e) := by
  have hsources : ∀ table ∈ [tag], ∀ key ∈ table.foreignKeys, key.sourceColumns ≠ [] := by
    decide
  obtain ⟨result, h⟩ := Assembler.assemble_total (a := forPython) (typeName_total rfl) hsources
    ["tag"] []
  have hcomments : ∀ raw ∈ tag.columns,
      ∀ comment ∈ columnComment raw (declaredList? tag raw.name), '\r' ∉ comment.toList := by
    have hdescribed : columnComment
        { name := "kind", nativeType := "text", comment := some "as\nsold" }
        (declaredList? tag "kind") = some "as\nsold - Possible values: 'x'" := by cbv
    simp only [tag, List.forall_mem_cons]
    refine ⟨fun comment hcomment => ?_, fun comment hcomment => ?_,
      fun _ h => absurd h List.not_mem_nil⟩
    · rw [← Option.some.inj (hdescribed.symm.trans hcomment)]
      decide
    · cases hcomment
  have hname : Enclosed tag.name := enclosed_of_not_mem (by decide)
  obtain ⟨hclosed, htypes⟩ := imports_closed h
    (show ({ inflector := regular } : RenderOptions).emitEnums = forPython.emitEnums from rfl)
    moduleName_app addsNoQuote_regular (confined_of_table h hname hcomments)
  obtain ⟨e, he, hname⟩ := Assembler.exists_entity h
    (show keptTable? [tag] tag.name = some tag from rfl) (by
    intro typeNames
    rw [Assembler.tablesByName_singleton, Assembler.extract, Assembler.tableEnums, enumTypes,
      considered_tag]
    simp only [List.foldlM_cons, List.foldlM_nil, enumTypeOf, enumCases_tag]
    exact ⟨_, rfl⟩)
  exact ⟨result, h, hclosed, e, he, hname, htypes e he⟩

/-- A comment that goes on behind a carriage return. -/
def remark : String := "x\r    from evil import Evil"

theorem closes_remark : Closes (after .code (commentLine remark).toList) := by
  show read (after .code (commentLine remark).toList) '\n' = (.code, ['\n'])
  decide

theorem importsOf_remark : importsOf (commentLine remark) = ["from evil import Evil"] := by
  decide

/-- A table with that comment. -/
def remarked : Table :=
  { name := "t"
    columns := [{ name := "id", nativeType := "integer", comment := some remark }] }

/-- The import behind the carriage return is none that a module of the run may have. -/
theorem not_closedStatement_evil (entities : List Entity) :
    ¬ ClosedStatement {} entities "from evil import Evil" := by
  rintro (⟨moduleName, hmodule, names, heq⟩ | ⟨i, ⟨-, -, -, name, hmodule, -⟩, heq⟩)
  · have hstart := congrArg (fun s => s.toList[5]?) heq
    fin_cases hmodule
    all_goals simp [String.toList_append] at hstart
  · have hstart := congrArg (fun s => s.toList[5]?) heq
    rw [Import.statement, hmodule] at hstart
    simp [String.toList_append] at hstart

/-- A comment that goes on behind a carriage return imports what it says. -/
theorem imports_of_remarked :
    ∃ result, forPython.assemble ["t"] [remarked] [] = .ok result ∧ ∃ e ∈ result.entities,
      ∃ s ∈ importsOf (entityText (contextFor pythonSet {} e) e),
        ¬ ClosedStatement {} result.entities s := by
  have hsources : ∀ table ∈ [remarked], ∀ key ∈ table.foreignKeys, key.sourceColumns ≠ [] := by
    decide
  obtain ⟨result, h⟩ := Assembler.assemble_total (a := forPython) (typeName_total rfl) hsources
    ["t"] []
  obtain ⟨e, he, hname⟩ := Assembler.exists_entity h
    (show keptTable? [remarked] remarked.name = some remarked from rfl) (by
    intro typeNames
    have hunlisted : consideredLists remarked = [] := by simp [consideredLists, remarked]
    rw [Assembler.tablesByName_singleton, Assembler.extract, Assembler.tableEnums, enumTypes,
      hunlisted]
    exact ⟨_, rfl⟩)
  have hcomment : ∀ c ∈ e.columns, c.comment = some remark := by
    intro c hc
    obtain ⟨table, htable, -, raw, hraw, hcolumn⟩ := described_of_mem h he hc
    obtain rfl := List.mem_singleton.mp htable
    obtain rfl := List.mem_singleton.mp hraw
    exact comment_of_describeColumn hcolumn
  have hlines : ∀ line ∈ entityLines (contextFor pythonSet {} e) e,
      ImportsOnly (fun _ => True) line := by
    refine importsOnly_entityLines (moduleName_moduleOf moduleName_app e)
      (plainEntity_of_mem h he ?_) (fun _ _ => trivial) fun c hc => ?_
    · rw [hname]
      exact enclosed_of_not_mem (by decide)
    · rw [commentLines, hcomment c hc]
      exact List.forall_mem_singleton.mpr ⟨closes_remark, fun _ _ _ => trivial⟩
  obtain ⟨c, hc⟩ : ∃ c, c ∈ e.columns := by
    obtain ⟨candidates, -, hall⟩ := Assembler.exists_linkedFrom h
    obtain ⟨table, source, pair, hfrom, rfl⟩ := hall e he
    obtain rfl := List.mem_singleton.mp (Assembler.mem_of_mem_tablesByName hfrom.table_mem)
    obtain ⟨c, hc, -⟩ := exists_of_mem_left
      (Assembler.describeColumns_ok hfrom.parts.2.1) (List.mem_singleton.mpr rfl)
    exact ⟨c, hc⟩
  refine ⟨result, h, e, he, "from evil import Evil", ?_, not_closedStatement_evil _⟩
  rw [entityText, importsOf_unlines hlines, List.mem_flatMap]
  exact ⟨commentLine remark, commentLine_mem_entityLines hc (hcomment c hc) (by decide),
    importsOf_remark ▸ List.mem_singleton_self _⟩

end Runs

end Python
end Emit
end TableCast
