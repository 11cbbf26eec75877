import TableCast.Proofs.Model.KeyLinks
import TableCast.Proofs.Model.MemberNames
import TableCast.Proofs.Model.TypeNames
import TableCast.Proofs.Name.Alphabets

/-!
# What holds of all names of an assembly

The names of an assembly are made by few routes: type names, field names and case names are spelled
from raw names, association names from raw names and type names, and a name that is taken gets
something behind it.  A property that every route keeps holds of all names of every assembly.

**Results.**
* `NameRule`: what a property must be closed under.
* `goodNames_of_mem`: then it holds of all names of an assembly.
* `nameRule_spells`: all routes stay in an alphabet.
* `spelledNames_of_mem`: so the names of an assembly are spelled, whatever its raw names are.
-/

namespace TableCast
namespace Model

open Text Name Schema Fallible

/-- The routes by which names are made from raw names, and a property that each of them keeps. -/
structure NameRule (n : Normalizer) (Raw Good : String → Prop) : Prop where
  scopeKey : ∀ {table column}, Raw table → Raw column → Raw (enumScopeKey table column)
  typeName : ∀ {table name}, Raw table → n.typeName table = .ok name → Good name
  enumTypeName : ∀ {table column}, Raw table → Raw column → Good (n.enumTypeName table column)
  fieldName : ∀ {column}, Raw column → Good (n.fieldName column)
  caseName : ∀ {value}, Raw value → Good (n.caseName value)
  derivedName : ∀ scope {base raw}, Good base → Raw raw → Good (Scope.derivedName scope base raw)
  numberedName : ∀ k {base}, Good base → Good (Scope.numberedName base k)
  stem : ∀ {column stem}, Raw column → stem? column = some stem → Raw stem
  instanceName : ∀ {typeName}, Good typeName → Good (n.instanceName typeName)
  joined : ∀ {column typeName}, Raw column → Good typeName →
    Good (String.ofList (trimRightBy (· == '_') (n.fieldName column).toList) ++ upperCamel typeName)
  parent : ∀ {name}, Good name → Good ("parent" ++ upperCamel name)

/-- The raw names of a table have a property. -/
structure RawNames (Raw : String → Prop) (table : Table) : Prop where
  name : Raw table.name
  columns : ∀ c ∈ table.columns, Raw c.name
  values : ∀ v ∈ table.valueLists, ∀ value ∈ v.values, Raw value
  sources : ∀ key ∈ table.foreignKeys, ∀ c ∈ key.sourceColumns, Raw c
  targets : ∀ key ∈ table.foreignKeys, Raw key.targetTable

/-- All names of an entity have a property: those of its types, its members and its cases. -/
structure GoodNames (Good : String → Prop) (e : Entity) : Prop where
  types : ∀ name ∈ e.typeNames, Good name
  fields : ∀ name ∈ e.fieldNames, Good name
  associations : ∀ l ∈ e.associations, Good l.name
  cases : ∀ t ∈ e.enums, ∀ name ∈ t.caseNames, Good name

/-- The value lists that give an enum type are about columns of the table. -/
theorem raw_of_considered
    {Raw : String → Prop} {table : Table} {values : ValueList}
    (hraw : RawNames Raw table) (h : values ∈ consideredLists table) :
    Raw values.column ∧ ∀ value ∈ values.values, Raw value := by
  obtain ⟨hmem, hdeclared⟩ := List.mem_filter.mp (List.mem_mergeSort.mp h)
  obtain ⟨column, hcolumn, hname⟩ :=
    List.any_eq_true.mp (Bool.and_eq_true_iff.mp hdeclared).1
  exact ⟨beq_iff_eq.mp hname ▸ hraw.columns column hcolumn, hraw.values values hmem⟩

section Rules

variable {n : Normalizer} {Raw Good : String → Prop} (rule : NameRule n Raw Good)
include rule

/-- A name that a batch gives is good when its bases are. -/
theorem good_of_route {batch : List (String × String)} {raw name : String}
    (hbatch : ∀ pair ∈ batch, Raw pair.1 ∧ Good pair.2) (h : Scope.Route batch raw name) :
    Good name := by
  obtain ⟨base, hpair, rfl | ⟨scope, rfl⟩⟩ := h
  · exact (hbatch _ hpair).2
  · exact rule.derivedName scope (hbatch _ hpair).2 (hbatch _ hpair).1

theorem good_lookup? {batch : List (String × String)} {raw : String}
    (hbatch : ∀ pair ∈ batch, Raw pair.1 ∧ Good pair.2) (hraw : raw ∈ keys batch) :
    Good ((lookup? (Scope.assign {} batch).1 raw).getD "") := by
  obtain ⟨name, hname, hroute⟩ := Scope.exists_route {} hraw
  rw [hname]
  exact good_of_route rule hbatch hroute

theorem good_casesAfter {table column : Option String} {values : List String}
    {built cases : List (String × String)}
    (hvalues : ∀ value ∈ values, Raw value) (hbuilt : ∀ c ∈ built, Good c.2)
    (h : n.casesAfter table column built values = .ok cases) :
    ∀ c ∈ cases, Good c.2 := by
  induction values generalizing built with
  | nil => exact Except.ok.inj h ▸ hbuilt
  | cons value values ih =>
      obtain ⟨hvalue, hrest⟩ := List.forall_mem_cons.mp hvalues
      rw [Normalizer.casesAfter] at h
      split at h
      · cases h
      · refine ih hrest (fun c hc => ?_) h
        rcases List.mem_append.mp hc with hold | hnew
        · exact hbuilt c hold
        · rw [List.mem_singleton.mp hnew]
          exact rule.caseName hvalue

/-- The names that an association may take are good when its columns and its target are. -/
theorem good_candidate
    {key : ForeignKey} {ownerType targetType : String} {isSelf : Bool} {candidates : List String}
    (hsources : ∀ c ∈ key.sourceColumns, Raw c) (htarget : Good targetType)
    (h : candidateNames n key ownerType targetType isSelf = .ok candidates) :
    ∀ name ∈ candidates, Good name := by
  rw [candidateNames] at h
  cases hkey : key.sourceColumns with
  | nil =>
      rw [hkey] at h
      cases h
  | cons first rest =>
      rw [hkey] at h hsources
      have hfirst := hsources first (List.mem_cons_self ..)
      have hstem : ∀ name ∈ ((if rest.isEmpty then stem? first else none).map n.fieldName).toList,
          Good name := by
        intro name hname
        obtain ⟨stem, hstem, rfl⟩ := Option.map_eq_some_iff.mp (Option.mem_toList.mp hname)
        split_ifs at hstem
        exact rule.fieldName (rule.stem hfirst hstem)
      have hplain : ∀ name ∈
          ((if rest.isEmpty then stem? first else none).map n.fieldName).toList ++
          [n.instanceName targetType, String.ofList (trimRightBy (· == '_')
            (n.fieldName first).toList) ++ upperCamel targetType], Good name := by
        intro name hname
        rcases List.mem_append.mp hname with hname | hname
        · exact hstem name hname
        · rcases List.mem_pair.mp hname with rfl | rfl
          · exact rule.instanceName htarget
          · exact rule.joined hfirst htarget
      dsimp only at h
      generalize ((if rest.isEmpty then stem? first else none).map n.fieldName).toList ++
          [n.instanceName targetType, String.ofList (trimRightBy (· == '_')
            (n.fieldName first).toList) ++ upperCamel targetType] = plain at h hplain
      intro name hname
      rw [← Except.ok.inj h, List.mem_eraseDups] at hname
      split_ifs at hname
      · -- A name that means the owner itself is replaced.
        obtain ⟨own, hmem, rfl⟩ := List.mem_map.mp hname
        split_ifs
        · exact rule.parent (hplain own hmem)
        · exact hplain own hmem
      · exact hplain name hname

end Rules

section Runs

variable {a : Assembler} {Raw Good : String → Prop} (rule : NameRule a.normalizer Raw Good)
variable {names : List String} {tables : List Table} {failures : List (String × String)}
variable {candidates : List (String × String)} {result : Assembly} {table : Table} {e : Entity}
include rule

theorem good_typeCandidates
    (hraw : ∀ table ∈ tables, RawNames Raw table) (h : a.typeCandidates tables = .ok candidates) :
    ∀ pair ∈ candidates, Raw pair.1 ∧ Good pair.2 := by
  intro pair hpair
  obtain ⟨table, htable, ⟨typeName, htype, rfl⟩ | ⟨-, henum⟩⟩ :=
    (mem_typeCandidates h pair).mp hpair
  · exact ⟨(hraw table htable).name, rule.typeName (hraw table htable).name htype⟩
  · obtain ⟨values, hvalues, rfl⟩ := List.mem_map.mp henum
    have hcolumn := (raw_of_considered (hraw table htable) hvalues).1
    exact ⟨rule.scopeKey (hraw table htable).name hcolumn,
      rule.enumTypeName (hraw table htable).name hcolumn⟩

theorem good_typeNames
    (hraw : ∀ table ∈ tables, RawNames Raw table)
    (h : a.assemble names tables failures = .ok result) (he : e ∈ result.entities) :
    ∀ name ∈ e.typeNames, Good name := by
  obtain ⟨candidates, hcandidates, heach⟩ := typeNames_of_mem h
  obtain ⟨hkeys, hnames⟩ := heach e he
  have hbatch := good_typeCandidates rule
    (fun table htable => hraw table (Assembler.mem_of_mem_tablesByName htable)) hcandidates
  intro name hname
  rw [hnames] at hname
  obtain ⟨key, hkey, rfl⟩ := List.mem_map.mp hname
  exact good_lookup? rule hbatch (hkeys hkey)

theorem good_fieldNames
    {columns : List Column} {enums : List EnumType} (hraw : RawNames Raw table)
    (h : List.Forall₂ (fun raw c => (a.describeColumn table enums (a.fieldNames table) raw).2 =
      .ok c) table.columns columns) :
    ∀ c ∈ columns, Good c.fieldName := by
  have hbatch : ∀ pair ∈ table.columns.map fun c => (c.name, a.normalizer.fieldName c.name),
      Raw pair.1 ∧ Good pair.2 := by
    intro pair hpair
    obtain ⟨c, hc, rfl⟩ := List.mem_map.mp hpair
    exact ⟨hraw.columns c hc, rule.fieldName (hraw.columns c hc)⟩
  intro c hc
  obtain ⟨raw, hmem, hdescribed⟩ := exists_of_mem_right h hc
  rw [(describes_of_describeColumn hdescribed).2]
  refine good_lookup? rule hbatch (List.mem_map.mpr ⟨_, List.mem_map_of_mem hmem, rfl⟩)

/-- An association is well named when its key, its owner and its target are. -/
theorem good_of_keyLink
    {owner : Entity} {entities : List Entity} {key : ForeignKey} {l : Association}
    (howner : Good owner.typeName) (hentities : ∀ d ∈ entities, Good d.typeName)
    (hsources : ∀ c ∈ key.sourceColumns, Raw c) (htarget : Raw key.targetTable)
    (h : KeyLink a.normalizer owner entities tables key l) : Good l.name := by
  obtain ⟨targetType, candidates, htype, hcandidates, hname⟩ := h.named
  have hgood : Good targetType := by
    rw [keyTarget] at htype
    split_ifs at htype
    · exact Except.ok.inj htype ▸ howner
    · cases hfind : entities.find? (·.name == key.targetTable) with
      | none =>
          rw [hfind] at htype
          exact rule.typeName htarget (mapError_eq_ok.mp htype)
      | some d =>
          rw [hfind] at htype
          exact Except.ok.inj htype ▸ hentities d (List.mem_of_find?_eq_some hfind)
  have hall := good_candidate rule hsources hgood hcandidates
  rcases hname with hmem | ⟨first, hfirst, k, heq⟩
  · exact hall l.name hmem
  · exact heq ▸ rule.numberedName k (hall first hfirst)

/-- What every route keeps holds of all names of an assembly. -/
theorem goodNames_of_mem
    (hraw : ∀ table ∈ tables, RawNames Raw table)
    (h : a.assemble names tables failures = .ok result) (he : e ∈ result.entities) :
    GoodNames Good e := by
  have hkept : ∀ table ∈ Assembler.tablesByName tables, RawNames Raw table := fun table htable =>
    hraw table (Assembler.mem_of_mem_tablesByName htable)
  have htypes : ∀ name ∈ e.typeNames, Good name := good_typeNames rule hraw h he
  obtain ⟨candidates, hcandidates, hall⟩ := Assembler.exists_linkedFrom h
  obtain ⟨table, source, pair, hfrom, rfl⟩ := hall e he
  have htable := hkept table hfrom.table_mem
  obtain ⟨henums, hdescribed, -⟩ := hfrom.parts
  refine ⟨htypes, ?_, ?_, ?_⟩
  · intro name hname
    obtain ⟨c, hc, rfl⟩ := List.mem_map.mp hname
    exact good_fieldNames rule htable (Assembler.describeColumns_ok hdescribed) c hc
  · intro l hl
    have hextracted : ∀ d ∈ a.extracted (Assembler.runTypeNames candidates)
        (Assembler.tablesByName tables), Good d.typeName := by
      intro d hd
      obtain ⟨owner, howner, hextract⟩ := Assembler.mem_extracted.mp hd
      obtain ⟨-, enums, columns, -, -, rfl⟩ := Assembler.extract_ok hextract
      exact good_lookup? rule (good_typeCandidates rule hkept hcandidates)
        (name_mem_keys hcandidates howner)
    rw [hfrom.closed] at hl
    obtain ⟨key, hkey, hlink⟩ := exists_of_mem_right (keyLinks_of_link hfrom.link) hl
    have hmem := List.mem_mergeSort.mp hkey
    exact good_of_keyLink rule
      (hextracted source (Assembler.mem_extracted.mpr ⟨table, hfrom.table_mem, hfrom.extract⟩))
      hextracted (htable.sources key hmem) (htable.targets key hmem) hlink
  · intro t ht name hname
    obtain ⟨c, hc, rfl⟩ := List.mem_map.mp hname
    rcases builtFrom_of_tableEnums henums with ⟨-, hbuilt⟩ | ⟨-, hnil⟩
    · obtain ⟨values, hvalues, hof⟩ := hbuilt.sound t ht
      exact good_casesAfter rule (raw_of_considered htable hvalues).2
        (fun c hc => absurd hc List.not_mem_nil) hof.cases c hc
    · rw [hnil] at ht
      exact absurd ht List.not_mem_nil

end Runs

section Spelling

variable {A : Alphabet} {n : Normalizer}

theorem mem_stemChars? {cs stem : List Char} (h : stemChars? cs = some stem) :
    ∀ c ∈ stem, c ∈ cs := by
  have hending : ∀ {ending line rest : List Char}, withoutEnding? ending line = some rest →
      ∀ c ∈ rest, c ∈ line := by
    intro ending line rest hrest c hc
    rw [withoutEnding?] at hrest
    split_ifs at hrest
    exact List.mem_of_mem_take (Option.some.inj hrest ▸ hc)
  have hbreak : ∀ c ∈ withoutFinalBreak cs, c ∈ cs := by
    intro c hc
    rw [withoutFinalBreak] at hc
    split_ifs at hc
    · exact List.mem_of_mem_dropLast hc
    · exact hc
  rw [stemChars?] at h
  split at h
  · cases h
  · rename_i found hfound
    obtain ⟨ending, -, hcut⟩ := List.exists_of_findSome?_eq_some hfound
    split_ifs at h
    split at h
    · cases h
    · rename_i trimmed hne htrim
      intro c hc
      rw [← Option.some.inj h] at hc
      exact hbreak c (hending hcut c (mem_of_mem_trimRightBy hc))

theorem reads_stem?
    {column stem : String} (hcolumn : A.Reads column) (h : stem? column = some stem) :
    A.Reads stem := by
  obtain ⟨cs, hcs, rfl⟩ := Option.map_eq_some_iff.mp h
  intro c hc
  rw [String.toList_ofList] at hc
  exact hcolumn c (mem_stemChars? hcs c hc)

/-- Spelling in an alphabet is kept by all routes. -/
theorem nameRule_spells
    (hname : ∀ {table name}, A.Reads table → n.typeName table = .ok name → A.Spells name) :
    NameRule n A.Reads A.Spells where
  scopeKey htable hcolumn := by
    have hdot : A.Reads "." := fun c hc => List.mem_singleton.mp hc ▸ A.dot
    exact (htable.append hdot).append hcolumn
  typeName := hname
  enumTypeName := Alphabet.spells_enumTypeName
  fieldName := Alphabet.spells_fieldName
  caseName := Alphabet.spells_caseName
  derivedName scope := Alphabet.spells_derivedName scope
  numberedName k _ h := Alphabet.spells_numberedName h k
  stem := reads_stem?
  instanceName h := Alphabet.spells_fieldName h.reads
  joined hcolumn htype := by
    refine Alphabet.Spells.append (Alphabet.spells_ofList fun c hc => ?_)
      (Alphabet.spells_upperCamel htype.reads)
    exact Alphabet.spells_fieldName hcolumn c (mem_of_mem_trimRightBy hc)
  parent h := Alphabet.Spells.append (Alphabet.spells_of_plain rfl)
    (Alphabet.spells_upperCamel h.reads)

theorem eq_unreserve_of_typeName {table name : String} (h : n.typeName table = .ok name) :
    ∃ source, name = n.unreserve (upperCamel source) := by
  rw [Normalizer.typeName] at h
  split_ifs at h
  all_goals
    obtain ⟨source, -, hname⟩ := bind_eq_ok.mp h
    exact ⟨source, (pure_eq_ok.mp hname).symm⟩

/-- Whatever the raw names are, the names of an assembly have no other ASCII characters than
letters, digits and underscores. -/
theorem spelledNames_of_mem
    {a : Assembler} {names : List String} {tables : List Table} {failures : List (String × String)}
    {result : Assembly} {e : Entity}
    (h : a.assemble names tables failures = .ok result) (he : e ∈ result.entities) :
    GoodNames everyText.Spells e := by
  have hrule : NameRule a.normalizer everyText.Reads everyText.Spells := by
    refine nameRule_spells fun {table name} _ hname => ?_
    obtain ⟨source, rfl⟩ := eq_unreserve_of_typeName hname
    exact Alphabet.spells_unreserve (Alphabet.spells_upperCamel (Alphabet.reads_everyText source))
  refine goodNames_of_mem hrule (fun table _ => ?_) h he
  exact ⟨Alphabet.reads_everyText _, fun _ _ => Alphabet.reads_everyText _,
    fun _ _ _ _ => Alphabet.reads_everyText _, fun _ _ _ _ => Alphabet.reads_everyText _,
    fun _ _ => Alphabet.reads_everyText _⟩

end Spelling

end Model
end TableCast
