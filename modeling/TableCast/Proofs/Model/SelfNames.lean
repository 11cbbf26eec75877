import TableCast.Proofs.Model.LinkSteps
import TableCast.Proofs.Name.Letters
import TableCast.Proofs.Name.NameRoutes

/-!
# The names of self-references

A reference of a table to itself shall not be named like an instance of the table, nor `self` or
`this`.  The candidates for its name are compared with these words, and one that is forbidden gets
a new name.  What comes after the comparison is not compared again: the new names, and the number
that is put behind the first candidate when all of them are taken.

**Names.**  `renameSelf` is the comparison, `stemField?` the only candidate that it can rename into
the name of an instance, and `TakesInstanceName` says when a self-reference gets that name.

**Results.**
* `renameSelf_eq_instance`, `mem_selfCandidates`: what the comparison lets through.
* `selfNamed_of_claim`: one self-reference.
* `self_names`: the self-references of a table, one after the other.
* `self_names_allowed`: the tables whose self-references are all named as they shall be.
-/

namespace TableCast
namespace Model

open Text Name Schema Fallible

/-- The field of the single key column of a foreign key, without the ending of keys. -/
def stemField? (n : Normalizer) (key : ForeignKey) : Option String :=
  match key.sourceColumns with
  | [column] => (stem? column).map n.fieldName
  | _ => none

/-- A name for a self-reference, in the place of one that it must not take. -/
def renameSelf (n : Normalizer) (ownerType name : String) : String :=
  if (forbiddenSelfNames n ownerType).contains name then "parent" ++ upperCamel name else name

/-- A self-reference gets the name of an instance of its table in a scope of taken names. -/
inductive TakesInstanceName (n : Normalizer) (ownerType : String) (key : ForeignKey)
    (scope : Scope) : Prop
  /-- The first candidate is `self` or `this` and is renamed into it. -/
  | renamed (word : String) (hword : word = "self" ∨ word = "this")
      (hstem : stemField? n key = some word)
      (hinstance : n.instanceName ownerType = "parent" ++ upperCamel word)
      (hfree : n.instanceName ownerType ∉ scope.taken)
  /-- All candidates are taken, and the number behind the first one makes it. -/
  | numbered (first : String) (rest : List String)
      (hcandidates : candidateNames n key ownerType ownerType true = .ok (first :: rest))
      (htaken : ∀ name ∈ first :: rest, name ∈ scope.taken)
      (hinstance : n.instanceName ownerType = scope.numbered first)

/-- How a self-reference is named in a scope of taken names. -/
structure SelfNamed (n : Normalizer) (ownerType : String) (key : ForeignKey) (scope : Scope)
    (name : String) : Prop where
  ne_self : name ≠ "self"
  ne_this : name ≠ "this"
  /-- It has the name of an instance of its table in two cases only. -/
  instance_iff : name = n.instanceName ownerType ↔ TakesInstanceName n ownerType key scope

section Candidates

variable {n : Normalizer} {ownerType name : String} {key : ForeignKey} {candidates : List String}

theorem parent_ne {name word : String} (hword : word.toList.head? ≠ some 'p') :
    "parent" ++ name ≠ word := by
  rintro rfl
  exact hword (by rw [String.toList_append]; rfl)

theorem renameSelf_ne_self : renameSelf n ownerType name ≠ "self" := by
  rw [renameSelf]
  split_ifs with hforbidden
  · exact parent_ne (by decide)
  · rintro rfl
    exact hforbidden (by simp [forbiddenSelfNames])

theorem renameSelf_ne_this : renameSelf n ownerType name ≠ "this" := by
  rw [renameSelf]
  split_ifs with hforbidden
  · exact parent_ne (by decide)
  · rintro rfl
    exact hforbidden (by simp [forbiddenSelfNames])

/-- Only a renamed `self` or `this` can be the name of an instance. -/
theorem renameSelf_eq_instance (h : renameSelf n ownerType name = n.instanceName ownerType) :
    (name = "self" ∨ name = "this") ∧
      n.instanceName ownerType = "parent" ++ upperCamel name := by
  rw [renameSelf] at h
  split_ifs at h with hforbidden
  · have hmem : name = n.instanceName ownerType ∨ name = "self" ∨ name = "this" := by
      simpa [forbiddenSelfNames] using hforbidden
    refine ⟨hmem.resolve_left fun hinstance => ?_, h.symm⟩
    exact append_upperCamel_ne (by decide) (h.trans hinstance.symm)
  · exact absurd (by simp [forbiddenSelfNames, h]) hforbidden

theorem renameSelf_of_word (hword : name = "self" ∨ name = "this") :
    renameSelf n ownerType name = "parent" ++ upperCamel name := by
  rw [renameSelf, if_pos]
  rcases hword with rfl | rfl
  · simp [forbiddenSelfNames]
  · simp [forbiddenSelfNames]

/-- The candidates for a self-reference: the stem of its key column, the name of an instance and the
key column with the type name, each renamed when it is forbidden. -/
theorem selfCandidates (h : candidateNames n key ownerType ownerType true = .ok candidates) :
    ∃ field : String, candidates =
      (((stemField? n key).toList ++
        [n.instanceName ownerType, field ++ upperCamel ownerType]).map
          (renameSelf n ownerType)).eraseDups := by
  rw [candidateNames] at h
  rw [stemField?]
  cases hsources : key.sourceColumns with
  | nil =>
      rw [hsources] at h
      cases h
  | cons first rest =>
      rw [hsources] at h
      refine ⟨String.ofList (trimRightBy (· == '_') (n.fieldName first).toList),
        (Except.ok.inj h).symm.trans ?_⟩
      cases rest with
      | nil => rfl
      | cons second rest => rfl

theorem mem_selfCandidates
    (h : candidateNames n key ownerType ownerType true = .ok candidates)
    (hname : name ∈ candidates) :
    name ≠ "self" ∧ name ≠ "this" ∧
      (name = n.instanceName ownerType → ∃ word, (word = "self" ∨ word = "this") ∧
        stemField? n key = some word ∧ n.instanceName ownerType = "parent" ++ upperCamel word) := by
  obtain ⟨field, rfl⟩ := selfCandidates h
  obtain ⟨plain, hplain, rfl⟩ := List.mem_map.mp (List.mem_eraseDups.mp hname)
  refine ⟨renameSelf_ne_self, renameSelf_ne_this, fun hinstance => ?_⟩
  obtain ⟨hword, hparent⟩ := renameSelf_eq_instance hinstance
  refine ⟨plain, hword, ?_, hparent⟩
  rcases List.mem_append.mp hplain with hstem | hother
  · exact Option.mem_toList.mp hstem
  · rcases List.mem_pair.mp hother with rfl | rfl
    · exact absurd hparent.symm (append_upperCamel_ne (by decide))
    · rcases hword with hword | hword
      · exact absurd hword (append_upperCamel_ne_lower (by decide))
      · exact absurd hword (append_upperCamel_ne_lower (by decide))

/-- A stem that is `self` or `this` is the first candidate, renamed. -/
theorem selfCandidates_of_stem {word : String}
    (h : candidateNames n key ownerType ownerType true = .ok candidates)
    (hstem : stemField? n key = some word) (hword : word = "self" ∨ word = "this") :
    ∃ rest, candidates = ("parent" ++ upperCamel word) :: rest := by
  obtain ⟨field, rfl⟩ := selfCandidates h
  rw [hstem, Option.toList_some, List.singleton_append, List.map_cons, List.eraseDups_cons,
    renameSelf_of_word hword]
  exact ⟨_, rfl⟩

/-- What a claim makes of the candidates for a self-reference. -/
theorem selfNamed_of_claim {scope next : Scope}
    (h : candidateNames n key ownerType ownerType true = .ok candidates)
    (hclaim : scope.claim? candidates = some (name, next)) :
    SelfNamed n ownerType key scope name := by
  rcases Scope.claim?_cases hclaim with ⟨hmem, hfree⟩ | ⟨first, rest, rfl, htaken, hnumbered⟩
  · obtain ⟨hself, hthis, hinstance⟩ := mem_selfCandidates h hmem
    refine ⟨hself, hthis, fun heq => ?_, fun hclash => ?_⟩
    · obtain ⟨word, hword, hstem, hparent⟩ := hinstance heq
      exact .renamed word hword hstem hparent (heq ▸ hfree)
    · cases hclash with
      | renamed word hword hstem hparent hfree' =>
          obtain ⟨rest, rfl⟩ := selfCandidates_of_stem h hstem hword
          rw [hparent] at hfree' ⊢
          exact Scope.claim?_of_free hfree' hclaim
      | numbered first rest hcandidates htaken _ =>
          obtain rfl := Except.ok.inj (h.symm.trans hcandidates)
          exact absurd (htaken name hmem) hfree
  · obtain ⟨k, -, hk, -⟩ := Scope.numbered_least scope first
    refine ⟨?_, ?_, fun heq => .numbered first rest h htaken (heq.symm.trans hnumbered),
      fun hclash => ?_⟩
    · rw [hnumbered, hk]
      exact numberedName_ne (by decide)
    · rw [hnumbered, hk]
      exact numberedName_ne (by decide)
    · cases hclash with
      | renamed word hword hstem hparent hfree =>
          -- The renamed word would have been the first candidate, and that one was taken.
          obtain ⟨rest', hcandidates⟩ := selfCandidates_of_stem h hstem hword
          rw [hparent, ← (List.cons.inj hcandidates).1] at hfree
          exact absurd (htaken first (List.mem_cons_self ..)) hfree
      | numbered other rest' hcandidates _ hinstance =>
          obtain ⟨rfl, -⟩ := List.cons.inj (Except.ok.inj (h.symm.trans hcandidates))
          exact hnumbered.trans hinstance.symm

end Candidates

section Run

variable {n : Normalizer} {owner : Entity} {entities : List Entity} {tables : List Table}
variable {state next : Linking} {key : ForeignKey} {l : Association}

/-- One step of linking names a self-reference in the scope that it finds. -/
theorem selfNamed_of_linkKey
    (h : linkKey n owner entities tables state key = .ok next)
    (hself : key.targetTable = owner.name) :
    ∃ l, next.associations = state.associations ++ [l] ∧
      SelfNamed n owner.typeName key state.scope l.name := by
  have htarget : keyTarget owner entities key = some owner.ref := by
    rw [keyTarget, if_pos (beq_iff_eq.mpr hself)]
  simp only [linkKey, bind_eq_ok, mapError_eq_ok, pure_eq_ok] at h
  obtain ⟨columns, -, targetType, htype, candidates, hcandidates, rfl⟩ := h
  rw [htarget] at htype
  obtain rfl : owner.typeName = targetType := Except.ok.inj htype
  rw [beq_iff_eq.mpr hself] at hcandidates
  obtain ⟨name, -, hclaim⟩ := state.scope.claim?_fresh (candidateNames_ne_nil hcandidates)
  have hnamed := selfNamed_of_claim hcandidates hclaim
  rw [hclaim]
  exact ⟨_, rfl, hnamed⟩

/-- The self-references among the associations so far are named in the scopes that they found: the
fields of the table and the associations in front of them were taken. -/
def SelfNamedSoFar (n : Normalizer) (owner : Entity) (entities : List Entity) (tables : List Table)
    (keys : List ForeignKey) (associations : List Association) : Prop :=
  ∀ before l after, associations = before ++ l :: after → l.isSelf = true →
    ∃ key ∈ keys, OfKey owner entities tables key l ∧
      SelfNamed n owner.typeName key
        { taken := owner.fieldNames.eraseDups ++ before.map (·.name) } l.name

theorem SelfNamedSoFar.step
    {keys : List ForeignKey} (hs : state.Holds owner entities tables keys)
    (hnamed : SelfNamedSoFar n owner entities tables keys state.associations)
    (h : linkKey n owner entities tables state key = .ok next) :
    SelfNamedSoFar n owner entities tables (keys ++ [key]) next.associations := by
  obtain ⟨new, _, hkey, -, -, hnext⟩ := linkKey_ok h
  have hgrown : next.associations = state.associations ++ [new] := by rw [hnext]
  intro before l after hsplit hself
  rw [hgrown] at hsplit
  rcases List.eq_nil_or_concat after with rfl | ⟨rest, last, rfl⟩
  · -- The association is the new one, and the scope was that of the state.
    obtain ⟨rfl, hlast⟩ := List.append_inj' hsplit rfl
    obtain rfl := List.singleton_inj.mp hlast
    have htarget : key.targetTable = owner.name := by
      rw [hkey.isSelf] at hself
      exact beq_iff_eq.mp hself
    obtain ⟨l, hl, hnew⟩ := selfNamed_of_linkKey h htarget
    rw [hgrown] at hl
    obtain rfl := List.singleton_inj.mp (List.append_cancel_left hl)
    refine ⟨key, List.mem_append_right _ (List.mem_singleton_self _), hkey, ?_⟩
    rw [← hs.taken]
    exact hnew
  · rw [List.concat_eq_append, ← List.cons_append, ← List.append_assoc] at hsplit
    obtain ⟨hold, -⟩ := List.append_inj' hsplit rfl
    obtain ⟨key', hkey', hof, hname⟩ := hnamed before l rest hold hself
    exact ⟨key', List.mem_append_left _ hkey', hof, hname⟩

/-- All self-references of a table are named in the scopes that they found. -/
theorem selfNamedSoFar_of_link
    {table : Table} {associations : List Association} {warnings : List Diagnostic}
    (h : link n owner table entities tables = .ok (associations, warnings)) :
    SelfNamedSoFar n owner entities tables table.foreignKeys associations := by
  rw [link, bind_eq_ok] at h
  obtain ⟨done, hfold, hdone⟩ := h
  obtain ⟨rfl, rfl⟩ := Prod.mk.inj (pure_eq_ok.mp hdone)
  obtain ⟨-, hnamed⟩ : done.Holds owner entities tables (table.foreignKeys.mergeSort keyLe) ∧
      SelfNamedSoFar n owner entities tables (table.foreignKeys.mergeSort keyLe)
        done.associations := by
    refine foldlM_ok_induction
      (motive := fun keys state => state.Holds owner entities tables keys ∧
        SelfNamedSoFar n owner entities tables keys state.associations)
      ⟨Linking.Holds.start owner entities tables, ?_⟩ ?_ hfold
    · intro before l after hsplit
      simp at hsplit
    · rintro before key state next - ⟨hs, hnamed⟩ hnext
      have hstep := mapError_eq_ok.mp hnext
      exact ⟨hs.step hstep, hnamed.step hs hstep⟩
  intro before l after hsplit hself
  obtain ⟨key, hkey, hof, hname⟩ := hnamed before l after hsplit hself
  exact ⟨key, List.mem_mergeSort.mp hkey, hof, hname⟩

/-- **The names of self-references.**  An association of a table with itself is never named `self`
or `this`, and it has the name of an instance of the table when a forbidden name is renamed into it
or a number makes it, and only then. -/
theorem self_names
    {table : Table} {associations : List Association} {warnings : List Diagnostic}
    (h : link n owner table entities tables = .ok (associations, warnings)) :
    List.Forall₂ (OfKey owner entities tables) (table.foreignKeys.mergeSort keyLe) associations ∧
    ∀ before l after, associations = before ++ l :: after → l.isSelf = true →
      ∃ key ∈ table.foreignKeys, OfKey owner entities tables key l ∧
        SelfNamed n owner.typeName key
          { taken := owner.fieldNames.eraseDups ++ before.map (·.name) } l.name := by
  obtain ⟨hkeys, -, -⟩ := link_ok h
  exact ⟨hkeys, selfNamedSoFar_of_link h⟩

/-- Self-references are named as they shall be when an instance of the table is named neither like a
renamed word nor with a number at the end.  This condition is about the name of the type alone. -/
theorem self_names_allowed
    {table : Table} {associations : List Association} {warnings : List Diagnostic}
    (h : link n owner table entities tables = .ok (associations, warnings))
    (hwords : n.instanceName owner.typeName ∉ ["parentSelf", "parentThis"])
    (hdigit : (n.instanceName owner.typeName).toList.getLast?.any Char.isDigit = false)
    (hl : l ∈ associations) (hself : l.isSelf = true) :
    l.name ∉ forbiddenSelfNames n owner.typeName := by
  obtain ⟨before, after, hsplit⟩ := List.append_of_mem hl
  obtain ⟨key, -, -, hnamed⟩ := selfNamedSoFar_of_link h before l after hsplit hself
  have hinstance : l.name ≠ n.instanceName owner.typeName := by
    intro heq
    cases hnamed.instance_iff.mp heq with
    | renamed word hword _ hparent _ =>
        have hrenamed : "parent" ++ upperCamel "self" = "parentSelf" ∧
            "parent" ++ upperCamel "this" = "parentThis" := ⟨by cbv, by cbv⟩
        rcases hword with rfl | rfl
        · exact hwords (by simp [hparent, hrenamed.1])
        · exact hwords (by simp [hparent, hrenamed.2])
    | numbered first _ _ _ hnumbered =>
        obtain ⟨k, -, hk, -⟩ := Scope.numbered_least
          { taken := owner.fieldNames.eraseDups ++ before.map (·.name) } first
        exact numberedName_ne hdigit (hk.symm.trans hnumbered.symm)
  simp [forbiddenSelfNames, hinstance, hnamed.ne_self, hnamed.ne_this]

end Run

section Samples

/-- A table with a column that references its own rows. -/
def looped (name column : String) : Table :=
  { name := name
    columns := [
      { name := "id", nativeType := "integer" },
      { name := column, nativeType := "integer" }]
    foreignKeys := [
      { name := "", sourceColumns := [column], targetTable := name, targetColumns := ["id"] }] }

/-- The entity of such a table with its columns. -/
def loopedEntity (name typeName column field : String) : Entity :=
  { name := name
    typeName := typeName
    columns := [
      { name := "id", fieldName := "id", semantic := .integer, nativeType := "integer"
        nullable := true },
      { name := column, fieldName := field, semantic := .integer, nativeType := "integer"
        nullable := true }]
    state := .columnsExtracted }

/-- The association of its foreign key under a name. -/
def loop (table typeName column name : String) : Association :=
  { name := name
    columnPairs := [(column, some "id")]
    targetTable := table
    target := some { table := table, typeName := typeName }
    isSelf := true }

/-- The names of Python code. -/
def pythonNames : Normalizer := { reserved := pythonReserved }

theorem link_parts :
    link pythonNames (loopedEntity "part" "Part" "whole_id" "wholeId") (looped "part" "whole_id")
      [loopedEntity "part" "Part" "whole_id" "wholeId"] [looped "part" "whole_id"] =
        .ok ([loop "part" "Part" "whole_id" "whole"], []) := by
  cbv

/-- The name of a part's reference to its whole. -/
theorem self_names_of_parts :
    ∃ key ∈ (looped "part" "whole_id").foreignKeys,
      SelfNamed pythonNames "Part" key { taken := ["id", "wholeId"] } "whole" := by
  obtain ⟨-, hnames⟩ := self_names link_parts
  obtain ⟨key, hkey, -, hname⟩ := hnames [] _ [] rfl rfl
  exact ⟨key, hkey, hname⟩

/-- A forbidden word that is renamed into the name of an instance. -/
theorem self_name_of_parentThis :
    link pythonNames (loopedEntity "parent_this" "ParentThis" "this_id" "thisId")
        (looped "parent_this" "this_id")
        [loopedEntity "parent_this" "ParentThis" "this_id" "thisId"]
        [looped "parent_this" "this_id"] =
      .ok ([loop "parent_this" "ParentThis" "this_id" "parentThis"], []) ∧
    pythonNames.instanceName "ParentThis" = "parentThis" := by
  constructor
  · cbv
  · cbv

end Samples

end Model
end TableCast
