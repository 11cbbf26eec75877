import TableCast.Proofs.Model.LinkSteps
import TableCast.Proofs.Name.NameRoutes

/-!
# What a foreign key becomes

Linking a foreign key makes the association of that key under a name.  The name is claimed from the
candidates of the key, so it is one of them, or one of them with a number behind it.

**Results.**
* `keyLink_of_linkKey`: what one step adds.
* `keyLinks_of_link`: what the foreign keys of a table become, one after the other.
-/

namespace TableCast
namespace Model

open Name Schema Fallible

variable {n : Normalizer} {owner : Entity} {entities : List Entity} {tables : List Table}
variable {state next : Linking} {key : ForeignKey}

/-- An association that a foreign key of an owner becomes among the tables and the entities of a
run. -/
structure KeyLink (n : Normalizer) (owner : Entity) (entities : List Entity)
    (tables : List Table) (key : ForeignKey) (l : Association) : Prop where
  /-- It links the columns that the key references. -/
  links : ∃ columns,
    targetColumns key owner.name (tableNamed? tables key.targetTable) = .ok columns ∧
    l = associationOf owner key (keyTarget owner entities key) columns l.name
  /-- It is named after the key and its target. -/
  named : ∃ targetType candidates,
    assumedTypeName n key (keyTarget owner entities key) = .ok targetType ∧
    candidateNames n key owner.typeName targetType (key.targetTable == owner.name) =
      .ok candidates ∧
    (l.name ∈ candidates ∨ ∃ first ∈ candidates, ∃ k, l.name = Scope.numberedName first k)

theorem keyLink_of_linkKey (h : linkKey n owner entities tables state key = .ok next) :
    ∃ l, KeyLink n owner entities tables key l ∧ next.associations = state.associations ++ [l] := by
  simp only [linkKey, bind_eq_ok, mapError_eq_ok, pure_eq_ok] at h
  obtain ⟨columns, hcolumns, targetType, htype, candidates, hcandidates, rfl⟩ := h
  obtain ⟨name, -, hclaim⟩ := state.scope.claim?_fresh (candidateNames_ne_nil hcandidates)
  rw [hclaim]
  exact ⟨associationOf owner key (keyTarget owner entities key) columns name,
    ⟨⟨columns, hcolumns, rfl⟩,
      ⟨targetType, candidates, htype, hcandidates, Scope.claim?_route hclaim⟩⟩, rfl⟩

/-- The foreign keys of a table become its associations, one after the other. -/
theorem keyLinks_of_link
    {table : Table} {associations : List Association} {warnings : List Diagnostic}
    (h : link n owner table entities tables = .ok (associations, warnings)) :
    List.Forall₂ (KeyLink n owner entities tables) (table.foreignKeys.mergeSort keyLe)
      associations := by
  rw [link, bind_eq_ok] at h
  obtain ⟨done, hfold, hdone⟩ := h
  obtain ⟨rfl, rfl⟩ := Prod.mk.inj (pure_eq_ok.mp hdone)
  refine foldlM_ok_induction
    (motive := fun before state =>
      List.Forall₂ (KeyLink n owner entities tables) before state.associations)
    List.Forall₂.nil ?_ hfold
  intro before key state next _ hstate hnext
  obtain ⟨l, hlink, hgrown⟩ := keyLink_of_linkKey (mapError_eq_ok.mp hnext)
  rw [hgrown]
  exact List.rel_append hstate (List.Forall₂.cons hlink List.Forall₂.nil)

end Model
end TableCast
