import TableCast.Emit.Python.Repository
import TableCast.Proofs.Emit.CodeLines
import TableCast.Proofs.Emit.FieldTerms
import TableCast.Proofs.Name.SortedNames

/-!
# The imports of the lines of a Python module

A module of an entity or of a repository is written line by line.  What it quotes from a table is
read as a text, and what it names goes on with code.  Two texts are written without quotes of their
own: the name of the table in docstrings, and the comment of a column behind a number sign, where
only line feeds are replaced.  Unless the name closes its docstring or the comment holds a carriage
return, the imports of the module are those that it is written with: names of the standard library,
and generated types.

**Results.**
* `importsOnly_typeOf`, `importsOnly_defaultLine`: annotations and defaults.
* `importsOnly_entityLines`: the imports of the module of an entity.
* `importsAre_repositoryLines`: the imports of the module of a repository.
-/

namespace TableCast
namespace Emit
namespace Python

open Text Name Model
open Layout (isGap)
open Schema (SemanticType Value)

/-- The modules of the standard library that generated modules import from. -/
def standardModules : List String := ["__future__", "dataclasses", "datetime", "typing"]

/-- The import of names from a module of the standard library. -/
def StandardImport (s : String) : Prop :=
  ∃ moduleName ∈ standardModules, ∃ names, s = "from " ++ moduleName ++ " import " ++ names

/-- The names that are written of a column. -/
structure PlainColumn (c : Column) : Prop where
  fieldName : everyText.Spells c.fieldName
  enumType : ∀ t ∈ c.enum,
    everyText.Spells t.typeName ∧ ∀ name ∈ t.caseNames, everyText.Spells name
  constants : ∀ v ∈ c.valueConstants, everyText.Spells v.1

/-- The names that are written of an association. -/
structure PlainAssociation (l : Association) : Prop where
  name : everyText.Spells l.name
  targetType : ∀ target ∈ l.targetType, everyText.Spells target

/-- What is written of an entity without quotes: names, and the name of its table, which closes no
docstring. -/
structure PlainEntity (e : Entity) : Prop where
  name : Enclosed e.name
  typeName : everyText.Spells e.typeName
  columns : ∀ c ∈ e.columns, PlainColumn c
  associations : ∀ l ∈ e.associations, PlainAssociation l
  enums : ∀ t ∈ e.enums, everyText.Spells t.typeName

/-- A name of a module or of a package: words with dots in between. -/
structure ModuleName (s : String) : Prop where
  nonempty : s ≠ ""
  dotted : ∀ c ∈ s.toList, (isTame c || c == '.') = true

section Parts

variable {P : String → Prop} {c : Column} {l : Association} {e : Entity} {context : RenderContext}
variable {s rest : String}

theorem ModuleName.bare (h : ModuleName s) : Bare s := by
  intro c hc
  rcases Bool.or_eq_true _ _ ▸ h.dotted c hc with htame | hdot
  · exact isBare_of_tame htame
  · rw [beq_iff_eq.mp hdot]
    rfl

theorem bare_of_figures (h : Number.Figures s.toList) : Bare s := by
  intro c hc
  have hfigure := h c hc
  simp only [Number.isFigure, Bool.or_eq_true, beq_iff_eq, or_assoc] at hfigure
  rcases hfigure with hplain | rfl | rfl | rfl
  · exact isBare_of_tame (isTame_of_plain hplain)
  · rfl
  · rfl
  · rfl

theorem quote_not_mem_of_spells (h : everyText.Spells s) : '"' ∉ s.toList := fun hmem =>
  absurd (h '"' hmem) (by show ¬ isTame '"' = true; decide)

/-- A name closes no docstring. -/
theorem enclosed_of_spells (h : everyText.Spells s) : Enclosed s :=
  enclosed_of_not_mem (quote_not_mem_of_spells h)

theorem spells_plainType (semantic : SemanticType) : everyText.Spells (plainType semantic) := by
  cases semantic
  all_goals exact Alphabet.spells_of_plain rfl

theorem spells_boolText (b : Bool) : everyText.Spells (boolText b) := by
  cases b
  · exact Alphabet.spells_of_plain rfl
  · exact Alphabet.spells_of_plain rfl

theorem isClosed_quotedTuple (items : List String) :
    IsClosed (commaTuple (items.map Quoted.text)) := by
  refine isClosed_commaTuple fun item hitem => ?_
  obtain ⟨own, -, rfl⟩ := List.mem_map.mp hitem
  exact isExpression_quoted own

/-- An annotation is a name, or a name with another one in brackets. -/
theorem importsOnly_typeOf (hc : PlainColumn c)
    (hstop : stops (codeFrom .code rest.toList) = true) (h : Within P rest) :
    ImportsOnly P (typeOf c ++ rest) := by
  rw [typeOf]
  split
  · rename_i t henum
    have htype := (hc.enumType t henum).1
    split_ifs
    · simp only [String.append_assoc]
      exact importsOnly_text rfl rfl (within_bare (bare_of_spells htype) (within_text rfl h))
    · exact importsOnly_word htype hstop h
  · exact importsOnly_word (spells_plainType _) hstop h

theorem bare_typeOf (hc : PlainColumn c) : Bare (typeOf c) := by
  rw [typeOf]
  split
  · rename_i t henum
    have htype := bare_of_spells (hc.enumType t henum).1
    split_ifs
    · rw [bare_append, bare_append]
      exact ⟨⟨bare_text rfl, htype⟩, bare_text rfl⟩
    · exact htype
  · exact bare_of_spells (spells_plainType _)

theorem isExpression_literal (value : Value) : IsExpression (literal value) := by
  cases value with
  | bool b =>
      cases b
      · exact isExpression_of_bare (bare_text rfl)
      · exact isExpression_of_bare (bare_text rfl)
  | int n => exact isExpression_of_bare (bare_of_figures (Number.figures_int n))
  | float x => exact isExpression_of_bare (bare_of_figures (Number.figures_number x))
  | text s => exact isExpression_quoted s

theorem bare_member {t : EnumType} {name : String}
    (ht : everyText.Spells t.typeName ∧ ∀ name ∈ t.caseNames, everyText.Spells name)
    (hname : name ∈ t.caseNames) : Bare (member t name) := by
  rw [member, bare_append, bare_append]
  exact ⟨⟨bare_of_spells ht.1, bare_text rfl⟩, bare_of_spells (ht.2 name hname)⟩

/-- The line of a default. -/
theorem importsOnly_defaultLine {t : ValueTerm} (hc : PlainColumn c) (h : defaultTerm c = some t) :
    ImportsOnly P (defaultLine t) := by
  have hvalue : ∀ {text : String}, IsExpression text →
      ImportsOnly P ("        default=" ++ text ++ ",") := fun htext => by
    rw [String.append_assoc]
    exact importsOnly_text rfl rfl (within_expression htext (behind_text rfl (within_end rfl)))
  rcases defaultTerm_cases h with ⟨value, -, rfl⟩ |
    ⟨e, henum, ⟨name, hname, -, rfl⟩ | ⟨members, hmembers, -, rfl⟩⟩
  · exact hvalue (isExpression_literal value)
  · exact hvalue (isExpression_of_bare (bare_member (hc.enumType e henum) hname))
  · have hall : Bare (joinWith ", " (members.map (member e))) := by
      refine bare_joinWith (bare_text rfl) fun item hitem => ?_
      obtain ⟨name, hname, rfl⟩ := List.mem_map.mp hitem
      exact bare_member (hc.enumType e henum) (hmembers name hname)
    show ImportsOnly P ("        default_factory=lambda: " ++
      ("frozenset(\x7b" ++ joinWith ", " (members.map (member e)) ++ "\x7d)") ++ ",")
    simp only [String.append_assoc]
    exact importsOnly_head rfl rfl
      (importsOnly_text rfl rfl (within_bare hall (within_text rfl (within_end rfl))))

end Parts

section Entities

variable {P : String → Prop} {context : RenderContext} {e : Entity} {c : Column} {l : Association}

theorem none_of_nil : ∀ line ∈ ([] : List String), ImportsOnly P line :=
  fun _ hline => absurd hline List.not_mem_nil

theorem importsOnly_empty : ImportsOnly P "" := importsOnly_fixed rfl

theorem importsOnly_banner (name : String) :
    ImportsOnly P (banner ("table " ++ Quoted.text name)) := by
  show ImportsOnly P
    ("# Generated by schema-codegen from " ++ ("table " ++ Quoted.text name) ++
      ". Do not edit by hand.")
  rw [String.append_assoc, String.append_assoc]
  exact importsOnly_remark rfl (oneLine_append.mpr ⟨oneLine_text rfl,
    oneLine_append.mpr ⟨oneLine_quoted name, oneLine_text rfl⟩⟩)

/-- A line with a quoted text behind a colon. -/
theorem importsOnly_quotedItem {cs : List Char} (hcs : heads cs = true)
    (hfirst : inert (codeFrom .code cs) = true) (s : String) :
    ImportsOnly P (String.ofList cs ++ (Quoted.text s ++ ",")) :=
  importsOnly_head hcs hfirst (importsOnly_quoted s (behind_text rfl (within_end rfl)))

theorem importsOnly_tableLines (he : PlainEntity e) :
    ∀ line ∈ tableLines e, ImportsOnly P line := by
  have htype := bare_of_spells he.typeName
  have hindexes : ∀ line ∈ e.indexes.map indexLine, ImportsOnly P line := by
    intro line hline
    obtain ⟨i, -, rfl⟩ := List.mem_map.mp hline
    simp only [indexLine, String.append_assoc]
    exact importsOnly_indented rfl (importsOnly_quoted i.name (behind rfl (within_text rfl
      (within_closed (isClosed_quotedTuple i.columns) (within_text rfl
        (within_bare (bare_of_spells (spells_boolText i.unique)) (within_end rfl)))))))
  simp only [tableLines, List.forall_mem_append, List.forall_mem_cons, String.append_assoc]
  exact ⟨⟨⟨importsOnly_fixed rfl,
    importsOnly_text rfl rfl (within_bare htype (within_end rfl)),
    importsOnly_docstring rfl rfl he.name rfl rfl,
    importsOnly_empty,
    importsOnly_text rfl rfl (within_last (isExpression_quoted e.name)),
    importsOnly_text rfl rfl (within_last (isClosed_quotedTuple e.primaryKey).isExpression),
    importsOnly_fixed rfl, none_of_nil⟩, hindexes⟩,
    importsOnly_fixed rfl, none_of_nil⟩

theorem importsOnly_constantLines (hc : PlainColumn c) :
    ∀ line ∈ constantLines c, ImportsOnly P line := by
  rw [constantLines]
  split_ifs
  · exact none_of_nil
  · refine List.forall_mem_cons.mpr ⟨importsOnly_empty, fun line hline => ?_⟩
    obtain ⟨v, hv, rfl⟩ := List.mem_map.mp hline
    simp only [String.append_assoc]
    exact importsOnly_indented rfl (importsOnly_word (hc.constants v hv) (stops_text rfl _)
      (within_text rfl (within_last (isExpression_quoted v.2))))

/-- A comment without carriage returns stays behind its number sign: line feeds are replaced. -/
theorem importsOnly_commentLines (hc : ∀ comment ∈ c.comment, '\r' ∉ comment.toList) :
    ∀ line ∈ commentLines c, ImportsOnly P line := by
  rw [commentLines]
  split
  · rename_i comment hcomment
    split_ifs
    · exact none_of_nil
    · rw [List.forall_mem_singleton, commentLine]
      exact importsOnly_remark rfl (oneLine_replaced_iff.mpr (hc comment hcomment))
  · exact none_of_nil

theorem importsOnly_defaultLines (hc : PlainColumn c) :
    ∀ line ∈ defaultLines c, ImportsOnly P line := by
  cases hterm : defaultTerm c with
  | some t =>
      rw [defaultLines_eq hterm, List.forall_mem_singleton]
      exact importsOnly_defaultLine hc hterm
  | none =>
      have hnone : default? c = none := by rw [← text_defaultTerm, hterm, Option.map_none]
      rw [defaultLines, hnone]
      dsimp only
      split_ifs
      · exact List.forall_mem_singleton.mpr (importsOnly_fixed rfl)
      · exact none_of_nil

theorem spells_repr (n : Nat) : everyText.Spells (Nat.repr n) := by
  intro c hc
  rw [Nat.toList_repr] at hc
  have hdigit : isAsciiDigit c = true := Nat.isDigit_of_mem_toDigits (by omega) (by omega) hc
  refine isTame_of_plain ?_
  rw [isPlain, hdigit, Bool.or_true, Bool.true_or]

/-- A line with a number behind a colon. -/
theorem importsOnly_numberItem {cs : List Char} (hcs : heads cs = true)
    (hfirst : inert (codeFrom .code cs) = true) (n : Int) :
    ImportsOnly P (String.ofList cs ++ (toString n ++ ",")) := by
  refine importsOnly_head hcs hfirst ?_
  cases n with
  | ofNat n => exact importsOnly_word (spells_repr n) rfl (within_end rfl)
  | negSucc n =>
      show ImportsOnly P ("-" ++ Nat.repr (n + 1) ++ ",")
      rw [String.append_assoc]
      exact importsOnly_text rfl rfl
        (within_bare (bare_of_spells (spells_repr _)) (within_end rfl))

theorem importsOnly_metadataLines (c : Column) : ∀ line ∈ metadataLines c, ImportsOnly P line := by
  simp only [metadataLines, List.forall_mem_append, List.forall_mem_cons, String.append_assoc]
  refine ⟨⟨⟨⟨⟨importsOnly_quotedItem rfl rfl _, importsOnly_quotedItem rfl rfl _, none_of_nil⟩,
    ?_⟩, ?_⟩, ?_⟩, ?_⟩
  · split_ifs
    · exact List.forall_mem_singleton.mpr (importsOnly_fixed rfl)
    · exact none_of_nil
  · split_ifs
    · exact List.forall_mem_singleton.mpr (importsOnly_fixed rfl)
    · exact none_of_nil
  · split
    · exact List.forall_mem_singleton.mpr (importsOnly_numberItem rfl rfl _)
    · exact none_of_nil
  · split
    · simp only [List.forall_mem_cons]
      exact ⟨importsOnly_numberItem rfl rfl _, importsOnly_numberItem rfl rfl _, none_of_nil⟩
    · exact none_of_nil

theorem importsOnly_columnLines (hc : PlainColumn c)
    (hcomment : ∀ line ∈ commentLines c, ImportsOnly P line) :
    ∀ line ∈ columnLines c, ImportsOnly P line := by
  have hannotation : ImportsOnly P
      ((if isOptional c then "Optional[" ++ typeOf c ++ "]" else typeOf c) ++ " = field(") := by
    split_ifs
    · simp only [String.append_assoc]
      exact importsOnly_text rfl rfl (within_bare (bare_typeOf hc) (within_text rfl (within_end rfl)))
    · exact importsOnly_typeOf hc rfl (within_end rfl)
  simp only [columnLines, List.forall_mem_append, List.forall_mem_cons, String.append_assoc,
    and_assoc]
  exact ⟨importsOnly_empty, none_of_nil, hcomment,
    importsOnly_indented rfl
      (importsOnly_word hc.fieldName (stops_text rfl _) (within_head rfl hannotation)),
    none_of_nil, importsOnly_defaultLines hc, importsOnly_fixed rfl, none_of_nil,
    importsOnly_metadataLines c, importsOnly_fixed rfl, importsOnly_fixed rfl, none_of_nil⟩

theorem isExpression_pairText (pair : String × Option String) : IsExpression (pairText pair) := by
  have htarget : IsExpression ((pair.2.map Quoted.text).getD "None") := by
    cases pair.2 with
    | none => exact isExpression_of_bare (bare_text rfl)
    | some target => exact isExpression_quoted target
  have hsource : IsClosed ("(" ++ Quoted.text pair.1 ++ ", ") :=
    ((isClosed_of_bare (bare_text rfl)).appendExpression (isExpression_quoted pair.1)).append rfl
      (isClosed_of_bare (bare_text rfl))
  rw [pairText]
  exact ((hsource.appendExpression htarget).append rfl
    (isClosed_of_bare (bare_text rfl))).isExpression

theorem importsOnly_associationLines (hl : PlainAssociation l) :
    ∀ line ∈ associationLines l, ImportsOnly P line := by
  have hpairs : ∀ item ∈ l.columnPairs.map pairText, IsExpression item := by
    intro item hitem
    obtain ⟨pair, -, rfl⟩ := List.mem_map.mp hitem
    exact isExpression_pairText pair
  simp only [associationLines, List.forall_mem_append, List.forall_mem_cons, String.append_assoc]
  refine ⟨⟨⟨importsOnly_empty, none_of_nil⟩, ?_⟩, importsOnly_fixed rfl, importsOnly_fixed rfl,
    importsOnly_fixed rfl, importsOnly_fixed rfl, importsOnly_quotedItem rfl rfl _,
    importsOnly_head rfl rfl (importsOnly_commaTuple hpairs (within_end rfl)),
    importsOnly_head rfl rfl (importsOnly_word (spells_boolText _) rfl (within_end rfl)),
    importsOnly_quotedItem rfl rfl _, importsOnly_quotedItem rfl rfl _, importsOnly_fixed rfl,
    importsOnly_fixed rfl, none_of_nil⟩
  split
  · simp only [List.forall_mem_cons]
    exact ⟨importsOnly_remark rfl (oneLine_append.mpr ⟨oneLine_quoted _, oneLine_text rfl⟩),
      importsOnly_indented rfl (importsOnly_word hl.name rfl (within_end rfl)), none_of_nil⟩
  · rename_i target htarget
    refine List.forall_mem_singleton.mpr (importsOnly_indented rfl
      (importsOnly_word hl.name (stops_text rfl _) (within_text rfl ?_)))
    exact within_bare (bare_of_spells (hl.targetType target htarget)) (within_end rfl)

/-- The import of names from a module of the standard library. -/
theorem importsOnly_standard {line moduleName names : String} (hP : ∀ s, StandardImport s → P s)
    (hmodule : moduleName ∈ standardModules) (hnames : Bare names)
    (hline : line = "from " ++ moduleName ++ " import " ++ names) : ImportsOnly P line := by
  have hmodules : ∀ m ∈ standardModules, m.toList.all isBare = true := by decide
  have hbare : Bare ("from " ++ moduleName ++ " import " ++ names) := by
    simp only [bare_append]
    exact ⟨⟨⟨bare_text rfl, List.all_eq_true.mp (hmodules moduleName hmodule)⟩, bare_text rfl⟩,
      hnames⟩
  rw [hline]
  refine importsOnly_import hbare ?_ (hP _ ⟨moduleName, hmodule, names, rfl⟩)
  simp only [String.toList_append, List.append_assoc]
  rfl

section Statements

variable {package typeName : String}

theorem bare_statement (hpackage : ModuleName package) (htype : everyText.Spells typeName) :
    Bare (Import.ofType package typeName).statement := by
  have hsnake : Bare (snake typeName) :=
    bare_of_spells (Alphabet.spells_snake (Alphabet.reads_everyText typeName))
  simp only [Import.statement, Import.ofType, bare_append, and_assoc]
  exact ⟨bare_text rfl, hpackage.bare, bare_text rfl, hsnake, bare_text rfl,
    bare_of_spells htype⟩

theorem head_statement (i : Import) : i.statement.toList.head? = some 'f' := by
  rw [Import.statement]
  simp only [String.toList_append, List.append_assoc]
  rfl

/-- The import of a generated type from a module that has a name. -/
theorem startsImport_statement (hpackage : ModuleName package) :
    startsImport (Import.ofType package typeName).statement.toList = true := by
  obtain ⟨c, cs, hcs⟩ := List.exists_cons_of_ne_nil fun h =>
    hpackage.nonempty (String.toList_eq_nil_iff.mp h)
  have hc : (isTame c || c == '.') = true :=
    hpackage.dotted c (hcs ▸ List.mem_cons_self ..)
  have hgap : isGap c = false := by
    rcases Bool.or_eq_true _ _ ▸ hc with htame | hdot
    · exact isGap_of_isTame htame
    · rw [beq_iff_eq.mp hdot]
      rfl
  simp only [Import.statement, Import.ofType, String.toList_append, hcs, List.append_assoc,
    List.cons_append]
  show (true && goesOn ((' ' :: c :: _).dropWhile isGap)) = true
  rw [List.dropWhile_cons, if_pos (by rfl), List.dropWhile_cons, hgap, if_neg Bool.false_ne_true, goesOn,
    hc, Bool.true_or, Bool.true_and]

end Statements

/-- What the module of an entity imports: names of the standard library, its enum types, and the
entities that it links to. -/
def EntityImport (context : RenderContext) (e : Entity) (s : String) : Prop :=
  StandardImport s ∨ (∃ i ∈ enumImports context e, s = i.statement) ∨
    ∃ i ∈ entityImports context e, s = i.statement

theorem isImport_statement (hpackage : ModuleName package) (htype : everyText.Spells typeName) :
    IsImport (Import.ofType package typeName).statement :=
  ⟨bare_statement hpackage htype, head_statement _, startsImport_statement hpackage⟩

theorem isImport_of_enumImports (hcontext : ∀ kind, ModuleName (context.moduleOf kind))
    (he : PlainEntity e) : ∀ i ∈ enumImports context e, IsImport i.statement := by
  intro i hi
  rw [enumImports] at hi
  split_ifs at hi
  · obtain ⟨t, ht, rfl⟩ := List.mem_map.mp hi
    exact isImport_statement (hcontext .enum) (he.enums t ht)
  · exact absurd hi List.not_mem_nil

theorem isImport_of_entityImports (hcontext : ∀ kind, ModuleName (context.moduleOf kind))
    (he : PlainEntity e) : ∀ i ∈ entityImports context e, IsImport i.statement := by
  intro i hi
  obtain ⟨typeName, htype, rfl⟩ := List.mem_map.mp hi
  obtain ⟨l, hl, htarget⟩ := List.mem_filterMap.mp (Scope.mem_sortedDistinct.mp htype)
  exact isImport_statement (hcontext .entity)
    ((he.associations l (List.mem_of_mem_filter hl)).targetType typeName htarget)

theorem bare_temporalTypes (e : Entity) : Bare (joinWith ", " (temporalTypes e)) := by
  have hall : ∀ name ∈ ["date", "datetime", "time"], name.toList.all isBare = true := by decide
  refine bare_joinWith (bare_text rfl) fun name hname => ?_
  exact List.all_eq_true.mp (hall name (List.mem_of_mem_filter hname))

theorem bare_typingNames (e : Entity) : Bare (joinWith ", " (typingNames e)) := by
  have hall : ∀ name ∈ ["TYPE_CHECKING", "Any", "ClassVar", "Dict", "FrozenSet", "Optional",
      "Tuple"], name.toList.all isBare = true := by decide
  have hknown : typingNames e ⊆ ["TYPE_CHECKING", "Any", "ClassVar", "Dict", "FrozenSet",
      "Optional", "Tuple"] := by
    rw [typingNames]
    split_ifs
    all_goals decide
  exact bare_joinWith (bare_text rfl) fun name hname => List.all_eq_true.mp (hall name (hknown hname))

theorem importsOnly_entityHead (hcontext : ∀ kind, ModuleName (context.moduleOf kind))
    (he : PlainEntity e) (hP : ∀ s, EntityImport context e s → P s) :
    ∀ line ∈ entityHead context e, ImportsOnly P line := by
  have hstandard : ∀ s, StandardImport s → P s := fun s hs => hP s (Or.inl hs)
  simp only [entityHead, List.forall_mem_append, List.forall_mem_cons, String.append_assoc]
  refine ⟨⟨⟨⟨⟨⟨importsOnly_banner e.name, importsOnly_docstring rfl rfl he.name rfl rfl,
    importsOnly_standard hstandard (by decide : "__future__" ∈ standardModules)
      (bare_text rfl : Bare "annotations") rfl, importsOnly_empty,
    importsOnly_standard hstandard (by decide : "dataclasses" ∈ standardModules)
      (bare_text rfl : Bare "dataclass, field") rfl, none_of_nil⟩, ?_⟩,
    importsOnly_standard hstandard (by decide : "typing" ∈ standardModules)
      (bare_typingNames e) rfl, none_of_nil⟩, ?_⟩, ?_⟩,
    importsOnly_empty, importsOnly_empty, none_of_nil⟩
  · split_ifs
    · exact none_of_nil
    · exact List.forall_mem_singleton.mpr (importsOnly_standard hstandard
        (by decide : "datetime" ∈ standardModules) (bare_temporalTypes e) rfl)
  · split_ifs
    · exact none_of_nil
    · refine List.forall_mem_cons.mpr ⟨importsOnly_empty, fun line hline => ?_⟩
      obtain ⟨i, hi, rfl⟩ := List.mem_map.mp hline
      exact importsOnly_import (isImport_of_enumImports hcontext he i hi).bare (head_statement i)
        (hP _ (Or.inr (Or.inl ⟨i, hi, rfl⟩)))
  · split_ifs
    · exact none_of_nil
    · simp only [List.forall_mem_cons]
      refine ⟨importsOnly_empty, importsOnly_fixed rfl, fun line hline => ?_⟩
      obtain ⟨i, hi, rfl⟩ := List.mem_map.mp hline
      exact importsOnly_indented rfl
        (importsOnly_import (isImport_of_entityImports hcontext he i hi).bare (head_statement i)
          (hP _ (Or.inr (Or.inr ⟨i, hi, rfl⟩))))

/-- The imports of the module of an entity, apart from those in its comments. -/
theorem importsOnly_entityLines (hcontext : ∀ kind, ModuleName (context.moduleOf kind))
    (he : PlainEntity e) (hP : ∀ s, EntityImport context e s → P s)
    (hcomments : ∀ c ∈ e.columns, ∀ line ∈ commentLines c, ImportsOnly P line) :
    ∀ line ∈ entityLines context e, ImportsOnly P line := by
  simp only [entityLines, List.forall_mem_append, List.forall_mem_flatMap]
  exact ⟨⟨⟨⟨importsOnly_entityHead hcontext he hP, importsOnly_tableLines he⟩,
    fun c hc => importsOnly_constantLines (he.columns c hc)⟩,
    fun c hc => importsOnly_columnLines (he.columns c hc) (hcomments c hc)⟩,
    fun l hl => importsOnly_associationLines (he.associations l hl)⟩

section Imported

variable (hcontext : ∀ kind, ModuleName (context.moduleOf kind)) (he : PlainEntity e)
variable (hlines : ∀ line ∈ entityLines context e, ImportsOnly P line) {i : Import}

include hcontext he hlines

/-- The enum types of an entity are imported. -/
theorem imported_of_enumImports (hi : i ∈ enumImports context e) :
    i.statement ∈ importsOf (entityText context e) := by
  have hnonempty : (enumImports context e).isEmpty = false :=
    List.isEmpty_eq_false_iff.mpr (List.ne_nil_of_mem hi)
  have hhead : i.statement ∈ entityHead context e := by
    have hline : i.statement ∈ "" :: (enumImports context e).map Import.statement :=
      List.mem_cons_of_mem _ (List.mem_map_of_mem hi)
    simp only [entityHead, hnonempty, List.mem_append]
    exact Or.inl (Or.inl (Or.inr hline))
  rw [entityText, importsOf_unlines hlines, List.mem_flatMap]
  refine ⟨i.statement, ?_, ?_⟩
  · simp only [entityLines, List.append_assoc]
    exact List.mem_append_left _ hhead
  · rw [(isImport_of_enumImports hcontext he i hi).importsOf_eq]
    exact List.mem_singleton_self _

/-- And so are the entities that it links to, behind an indentation. -/
theorem imported_of_entityImports (hi : i ∈ entityImports context e) :
    i.statement ∈ importsOf (entityText context e) := by
  have hnonempty : (entityImports context e).isEmpty = false :=
    List.isEmpty_eq_false_iff.mpr (List.ne_nil_of_mem hi)
  have hhead : "    " ++ i.statement ∈ entityHead context e := by
    have hline : "    " ++ i.statement ∈ "" :: "if TYPE_CHECKING:" ::
        (entityImports context e).map fun i => "    " ++ i.statement :=
      List.mem_cons_of_mem _ (List.mem_cons_of_mem _
        (List.mem_map_of_mem (f := fun i => "    " ++ i.statement) hi))
    simp only [entityHead, hnonempty, List.mem_append]
    exact Or.inl (Or.inr hline)
  rw [entityText, importsOf_unlines hlines, List.mem_flatMap]
  refine ⟨"    " ++ i.statement, ?_, ?_⟩
  · simp only [entityLines, List.append_assoc]
    exact List.mem_append_left _ hhead
  · rw [importsOf_indented rfl, (isImport_of_entityImports hcontext he i hi).importsOf_eq]
    exact List.mem_singleton_self _

end Imported

end Entities

section Repositories

variable {P : String → Prop} {context : RenderContext} {e : Entity} {c : Column}
variable {name plural rest : String} {lines : List String}

/-- The parameters of a primary key: a type stands behind the colon of each. -/
theorem within_keyParameters {columns : List Column} (hcolumns : ∀ c ∈ columns, PlainColumn c)
    (h : Within P rest) : Within P (String.join (columns.map keyParameter) ++ rest) := by
  induction columns with
  | nil => rwa [List.map_nil, String.join_nil, String.empty_append]
  | cons c columns ih =>
      obtain ⟨hc, hmore⟩ := List.forall_mem_cons.mp hcolumns
      rw [List.map_cons, String.join_cons, keyParameter]
      simp only [String.append_assoc]
      exact within_bare (bare_of_spells hc.fieldName) (within_head rfl
        (importsOnly_typeOf hc (stops_text rfl _) (within_text rfl (ih hmore))))

theorem importsOnly_findLines (he : PlainEntity e) :
    ∀ line ∈ findLines e, ImportsOnly P line := by
  have htype := bare_of_spells he.typeName
  have hcolumns : ∀ c ∈ e.primaryKeyColumns, PlainColumn c := fun c hc =>
    he.columns c (List.mem_of_mem_filter hc)
  rw [findLines]
  split_ifs
  · exact none_of_nil
  · simp only [List.forall_mem_cons, String.append_assoc]
    exact ⟨importsOnly_text rfl rfl (within_keyParameters hcolumns (within_text rfl
      (within_bare htype (within_end rfl)))),
      importsOnly_docstring rfl rfl (enclosed_of_spells he.typeName) rfl rfl, importsOnly_fixed rfl,
      importsOnly_empty, none_of_nil⟩

/-- The docstring of a repository goes on over several lines. -/
theorem importsAre_classDocstring (he : Enclosed e.name) (h : ImportsAre P lines) :
    ImportsAre P ("    \"\"\"" :: ("    Query surface for ``" ++ e.name ++ "`` rows.") :: "" ::
      "    The methods only describe the shape of the API; wire them to the" ::
      "    persistence layer of your application." :: "    \"\"\"" :: lines) := by
  obtain ⟨blocks, hblocks, honly⟩ := h
  have hend : ImportsOnly P ("    \"\"\"" ++ ("\n" ++ ("    Query surface for ``" ++ (e.name ++
      ("`` rows." ++ ("\n" ++ ("" ++ ("\n" ++
        ("    The methods only describe the shape of the API; wire them to the" ++ ("\n" ++
          ("    persistence layer of your application." ++ ("\n" ++ "    \"\"\"")))))))))))) :=
    importsOnly_long rfl rfl (inText_text rfl (inText_text rfl (inText_enclosed he (resumes_text rfl _)
      (inText_text rfl (inText_text rfl (inText_text rfl (inText_text rfl (inText_text rfl
        (inText_text rfl (inText_text rfl (inText_text rfl (inText_end rfl))))))))))))
  refine ⟨_ :: blocks, ?_, List.forall_mem_cons.mpr ⟨hend, honly⟩⟩
  simp only [unlines_cons, hblocks, String.append_assoc]

/-- What the module of a repository imports: names of the standard library and its entity. -/
def RepositoryImport (context : RenderContext) (e : Entity) (s : String) : Prop :=
  StandardImport s ∨ s = (repositoryImport context e).statement

/-- The imports of the module of a repository. -/
theorem importsAre_repositoryLines (hcontext : ∀ kind, ModuleName (context.moduleOf kind))
    (he : PlainEntity e) (hname : everyText.Spells name) (hplural : Enclosed plural) :
    ImportsAre (RepositoryImport context e) (repositoryLines context e name plural) := by
  have hstandard : ∀ s, StandardImport s → RepositoryImport context e s := fun s hs => Or.inl hs
  have htype := bare_of_spells he.typeName
  have hdoc := enclosed_of_spells he.typeName
  simp only [repositoryLines, String.append_assoc]
  refine ImportsAre.append (ImportsAre.append ?_ (importsAre_of_forall (importsOnly_findLines he)))
    (importsAre_of_forall ?_)
  · refine .cons (importsOnly_banner e.name) (.cons (importsOnly_docstring rfl rfl hdoc rfl rfl) ?_)
    refine .cons (importsOnly_standard hstandard (by decide : "__future__" ∈ standardModules)
      (bare_text rfl : Bare "annotations") rfl) (.cons importsOnly_empty ?_)
    refine .cons (importsOnly_standard hstandard (by decide : "typing" ∈ standardModules)
      (bare_text rfl : Bare "Any, Dict, List, Optional, Sequence") rfl) (.cons importsOnly_empty ?_)
    refine .cons (importsOnly_import (bare_statement (hcontext .entity) he.typeName)
      (head_statement _) (Or.inr rfl)) (.cons importsOnly_empty (.cons importsOnly_empty ?_))
    refine .cons (importsOnly_text rfl rfl (within_bare (bare_of_spells hname) (within_end rfl)))
      (importsAre_classDocstring he.name (importsAre_of_forall ?_))
    simp only [List.forall_mem_cons]
    exact ⟨importsOnly_empty, importsOnly_text rfl rfl (within_last (isExpression_of_bare htype)),
      importsOnly_empty, importsOnly_fixed rfl, importsOnly_fixed rfl, importsOnly_empty,
      none_of_nil⟩
  · simp only [List.forall_mem_cons]
    exact ⟨importsOnly_text rfl rfl (within_bare htype (within_end rfl)),
      importsOnly_docstring rfl rfl hdoc rfl rfl, importsOnly_fixed rfl, importsOnly_empty,
      importsOnly_fixed rfl, importsOnly_fixed rfl, importsOnly_fixed rfl, importsOnly_fixed rfl,
      importsOnly_fixed rfl, importsOnly_fixed rfl,
      importsOnly_text rfl rfl (within_bare htype (within_end rfl)),
      importsOnly_docstring rfl rfl hplural rfl rfl, importsOnly_fixed rfl, importsOnly_empty,
      importsOnly_text rfl rfl (within_bare htype (within_end rfl)),
      importsOnly_docstring rfl rfl hdoc rfl rfl, importsOnly_fixed rfl, none_of_nil⟩

end Repositories

end Python
end Emit
end TableCast
