import TableCast.Model.Association
import TableCast.Proofs.Fallible
import TableCast.Proofs.Reordering
import TableCast.Proofs.Name.FreshNames

/-!
# Linking one foreign key after the other

The associations of a table are made from its foreign keys in order.  Each step claims a name
in the scope of the members, adds one association, and adds a warning when the association is
unresolved.

**Step.**  `linkKey_ok` says everything that a step does.  The association it adds is `OfKey`,
its name was free, and the scope and the warnings grow by what belongs to it.

**Run.**  `Linking.Holds` is what the steps up to some foreign key keep; `link_ok` is what it
says when all foreign keys are linked.
-/

namespace TableCast
namespace Model

open Name Schema Fallible Reordering

section Order

/-- Lists of names are compared from the left. -/
theorem namesLe_eq_true_iff : ∀ {xs ys : List String}, namesLe xs ys = true ↔ xs ≤ ys
  | [], ys => by
      rw [namesLe]
      exact ⟨fun _ => not_lt.mp (List.not_lt_nil ys), fun _ => rfl⟩
  | x :: xs, [] => by
      rw [namesLe]
      exact ⟨fun h => absurd h Bool.false_ne_true, fun h => absurd h (not_le.mpr (List.nil_lt_cons x xs))⟩
  | x :: xs, y :: ys => by
      rw [namesLe, Bool.or_eq_true, Bool.and_eq_true, decide_eq_true_eq, beq_iff_eq,
        namesLe_eq_true_iff, le_iff_lt_or_eq, le_iff_lt_or_eq, List.cons_lt_cons_iff,
        List.cons.injEq]
      tauto

/-- Foreign keys are compared by their source columns and then by their names. -/
theorem keyLe_eq_true_iff {k l : ForeignKey} :
    keyLe k l = true ↔ toLex (k.sourceColumns, k.name) ≤ toLex (l.sourceColumns, l.name) := by
  rw [Prod.Lex.toLex_le_toLex, keyLe]
  split_ifs with h
  · have heq := beq_iff_eq.mp h
    simp [heq]
  · have hne : k.sourceColumns ≠ l.sourceColumns := fun he => h (beq_iff_eq.mpr he)
    rw [namesLe_eq_true_iff]
    constructor
    · exact fun hle => Or.inl (lt_of_le_of_ne hle hne)
    · rintro (hlt | ⟨heq, -⟩)
      · exact le_of_lt hlt
      · exact absurd heq hne

theorem keyLe_trans (j k l : ForeignKey) :
    keyLe j k = true → keyLe k l = true → keyLe j l = true := by
  simp only [keyLe_eq_true_iff]
  exact le_trans

theorem keyLe_total (k l : ForeignKey) : (keyLe k l || keyLe l k) = true := by
  rw [Bool.or_eq_true, keyLe_eq_true_iff, keyLe_eq_true_iff]
  exact le_total _ _

end Order

section Step

variable {n : Normalizer} {owner : Entity} {entities : List Entity} {tables : List Table}
variable {state next : Linking} {key : ForeignKey}

/-- The association that a foreign key of an owner gives among the tables and the entities of a
run. -/
structure OfKey (owner : Entity) (entities : List Entity) (tables : List Table)
    (key : ForeignKey) (l : Association) : Prop where
  targetTable : l.targetTable = key.targetTable
  /-- Its target is the owner, or the entity of the referenced table. -/
  target : l.target =
    if key.targetTable = owner.name then some owner.ref
    else (entities.find? (·.name == key.targetTable)).map (·.ref)
  /-- It is unresolved when it has no target. -/
  unresolved : l.unresolved = l.target.isNone
  isSelf : l.isSelf = (key.targetTable == owner.name)
  /-- It pairs the columns of the foreign key with the referenced ones. -/
  pairs : ∃ columns,
    targetColumns key owner.name (tableNamed? tables key.targetTable) = .ok columns ∧
    l.columnPairs = pairColumns key.sourceColumns columns
  onDelete : l.onDelete = key.onDelete
  onUpdate : l.onUpdate = key.onUpdate
  /-- It keeps the name of the constraint, if there is one. -/
  constraint : l.constraint = if key.name = "" then none else some key.name

/-- What a warning tells apart from its text. -/
def Diagnostic.subject (d : Diagnostic) : Option String × Severity × String × Option String :=
  (d.table, d.severity, d.code, d.artifact)

/-- What the warning about an unresolved association of a table tells. -/
def unresolvedSubject (table : String) (l : Association) :
    Option String × Severity × String × Option String :=
  (some table, .warning, unresolvedCode, some l.name)

theorem candidateNames_ne_nil
    {ownerType targetType : String} {isSelf : Bool} {candidates : List String}
    (h : candidateNames n key ownerType targetType isSelf = .ok candidates) :
    candidates ≠ [] := by
  have hne : ∀ xs : List String, xs ≠ [] → xs.eraseDups ≠ [] := by
    intro xs hxs herase
    obtain ⟨x, rest, rfl⟩ := List.exists_cons_of_ne_nil hxs
    rw [List.eraseDups_cons] at herase
    cases herase
  rw [candidateNames] at h
  cases hsources : key.sourceColumns with
  | nil =>
      rw [hsources] at h
      cases h
  | cons first rest =>
      rw [hsources] at h
      injection h with h
      rw [← h]
      apply hne
      cases isSelf with
      | false => simp
      | true => simp

/-- Columns that are paired keep their order. -/
theorem sources_pairColumns (sources targets : List String) :
    (pairColumns sources targets).map (·.1) <+: sources := by
  rw [pairColumns]
  split_ifs with h
  · simp [Function.comp_def]
  · induction sources generalizing targets with
    | nil => simp
    | cons s sources ih =>
        cases targets with
        | nil => simp
        | cons t targets =>
            cases targets with
            | nil => simp
            | cons u targets => simpa using ih (u :: targets) (by simp)

/-- No column is lost when there are as many referenced columns, or none. -/
theorem sources_pairColumns_of_length
    {sources targets : List String} (h : targets = [] ∨ targets.length = sources.length) :
    (pairColumns sources targets).map (·.1) = sources := by
  rw [pairColumns]
  split_ifs with hempty
  · simp [Function.comp_def]
  · have hlength : targets.length = sources.length :=
      h.resolve_left fun hnil => hempty (List.isEmpty_iff.mpr hnil)
    exact List.map_fst_zip (by simp [hlength])

/-- The referenced columns of a table that was read are as many as the referencing ones. -/
theorem length_of_targetColumns
    {source : String} {target : Table} {columns : List String}
    (h : targetColumns key source (some target) = .ok columns) :
    columns.length = key.sourceColumns.length := by
  simp only [targetColumns] at h
  generalize (if key.targetColumns.isEmpty then target.primaryKey else key.targetColumns) = chosen
    at h
  split_ifs at h with hlength hfewer hpart
  injection h with h
  subst h
  simpa using hlength

/-- The source columns of an association are those of its foreign key, as far as they are
paired. -/
theorem OfKey.sources
    {l : Association} (h : OfKey owner entities tables key l) :
    l.sourceColumns <+: key.sourceColumns := by
  obtain ⟨columns, -, hpairs⟩ := h.pairs
  rw [Association.sourceColumns, hpairs]
  exact sources_pairColumns key.sourceColumns columns

/-- All source columns are paired when the referenced table was read. -/
theorem OfKey.sources_of_read
    {l : Association} {target : Table} (h : OfKey owner entities tables key l)
    (hread : tableNamed? tables key.targetTable = some target) :
    l.sourceColumns = key.sourceColumns := by
  obtain ⟨columns, hcolumns, hpairs⟩ := h.pairs
  rw [hread] at hcolumns
  rw [Association.sourceColumns, hpairs]
  exact sources_pairColumns_of_length (Or.inr (length_of_targetColumns hcolumns))

theorem ofKey_associationOf
    {columns : List String}
    (h : targetColumns key owner.name (tableNamed? tables key.targetTable) = .ok columns)
    (name : String) :
    OfKey owner entities tables key
      (associationOf owner key (keyTarget owner entities key) columns name) where
  targetTable := rfl
  target := by
    show keyTarget owner entities key = _
    by_cases h : key.targetTable = owner.name <;> simp [keyTarget, h]
  unresolved := rfl
  isSelf := rfl
  pairs := ⟨columns, h, rfl⟩
  onDelete := rfl
  onUpdate := rfl
  constraint := by
    show (if key.name.isEmpty then none else some key.name) = _
    simp only [String.isEmpty_iff]

/-- There is one warning for an unresolved association and none for another. -/
theorem subject_unresolvedWarnings (table : String) (key : ForeignKey) (wasRead implicit : Bool)
    (l : Association) :
    (unresolvedWarnings table key wasRead implicit l).map Diagnostic.subject =
      ([l].filter (·.unresolved)).map (unresolvedSubject table) := by
  rw [unresolvedWarnings]
  cases h : l.unresolved with
  | false => simp [h]
  | true => simp [h, Diagnostic.subject, unresolvedSubject]

/-- What a step of linking does: it adds one association with a name that was free, and a
warning when the association is unresolved. -/
theorem linkKey_ok
    (h : linkKey n owner entities tables state key = .ok next) :
    ∃ l warnings,
      OfKey owner entities tables key l ∧
      l.name ∉ state.scope.taken ∧
      warnings.map Diagnostic.subject =
        ([l].filter (·.unresolved)).map (unresolvedSubject owner.name) ∧
      next = {
        scope := { taken := state.scope.taken ++ [l.name] }
        associations := state.associations ++ [l]
        diagnostics := state.diagnostics ++ warnings } := by
  simp only [linkKey, bind_eq_ok, mapError_eq_ok, pure_eq_ok] at h
  obtain ⟨columns, hcolumns, assumedType, -, candidates, hcandidates, rfl⟩ := h
  obtain ⟨name, hfree, hclaim⟩ := state.scope.claim?_fresh (candidateNames_ne_nil hcandidates)
  rw [hclaim]
  refine ⟨associationOf owner key (keyTarget owner entities key) columns name,
    unresolvedWarnings owner.name key (tableNamed? tables key.targetTable).isSome columns.isEmpty
      (associationOf owner key (keyTarget owner entities key) columns name),
    ofKey_associationOf hcolumns name, hfree, ?_, rfl⟩
  exact subject_unresolvedWarnings owner.name key _ _ _

end Step

section Run

variable {n : Normalizer} {owner : Entity} {entities : List Entity} {tables : List Table}
variable {before : List ForeignKey} {state next : Linking} {key : ForeignKey}

/-- What linking keeps from one foreign key to the next. -/
structure Linking.Holds (owner : Entity) (entities : List Entity) (tables : List Table)
    (before : List ForeignKey) (state : Linking) : Prop where
  /-- There is one association for each foreign key, in order. -/
  associations : List.Forall₂ (OfKey owner entities tables) before state.associations
  /-- The members are the fields and the associations. -/
  taken : state.scope.taken = owner.fieldNames.eraseDups ++ state.associations.map (·.name)
  /-- The members have distinct names. -/
  nodup : state.scope.taken.Nodup
  /-- There is one warning for each unresolved association, in order. -/
  warnings : state.diagnostics.map Diagnostic.subject =
    (state.associations.filter (·.unresolved)).map (unresolvedSubject owner.name)

theorem Linking.Holds.start (owner : Entity) (entities : List Entity) (tables : List Table) :
    Linking.Holds owner entities tables [] { scope := { taken := owner.fieldNames.eraseDups } } where
  associations := List.Forall₂.nil
  taken := (List.append_nil _).symm
  nodup := nodup_eraseDups _
  warnings := rfl

theorem Linking.Holds.step
    (hs : state.Holds owner entities tables before)
    (h : linkKey n owner entities tables state key = .ok next) :
    next.Holds owner entities tables (before ++ [key]) := by
  obtain ⟨l, warnings, hkey, hfree, hwarnings, rfl⟩ := linkKey_ok h
  refine ⟨?_, ?_, ?_, ?_⟩
  · exact List.rel_append hs.associations (List.Forall₂.cons hkey List.Forall₂.nil)
  · show state.scope.taken ++ [l.name] = _
    rw [hs.taken, List.map_append, List.append_assoc]
    rfl
  · show (state.scope.taken ++ [l.name]).Nodup
    rw [← List.concat_eq_append]
    exact List.Nodup.concat hfree hs.nodup
  · rw [List.map_append, List.filter_append, List.map_append, hs.warnings, hwarnings]

/-- The associations of a table come from its foreign keys in order, their names are distinct
from each other and from the fields, and each unresolved one has its warning. -/
theorem link_ok
    {table : Table} {associations : List Association} {warnings : List Diagnostic}
    (h : link n owner table entities tables = .ok (associations, warnings)) :
    List.Forall₂ (OfKey owner entities tables) (table.foreignKeys.mergeSort keyLe) associations ∧
    (owner.fieldNames.eraseDups ++ associations.map (·.name)).Nodup ∧
    warnings.map Diagnostic.subject =
      (associations.filter (·.unresolved)).map (unresolvedSubject owner.name) := by
  rw [link, bind_eq_ok] at h
  obtain ⟨done, hfold, hdone⟩ := h
  obtain ⟨rfl, rfl⟩ := Prod.mk.inj (pure_eq_ok.mp hdone)
  have hholds : done.Holds owner entities tables (table.foreignKeys.mergeSort keyLe) := by
    refine foldlM_ok_induction (Linking.Holds.start owner entities tables) ?_ hfold
    intro before key state next _ hstate hnext
    exact hstate.step (mapError_eq_ok.mp hnext)
  exact ⟨hholds.associations, hholds.taken ▸ hholds.nodup, hholds.warnings⟩

end Run

end Model
end TableCast
