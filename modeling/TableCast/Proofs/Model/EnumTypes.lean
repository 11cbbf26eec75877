import TableCast.Model.EnumType
import TableCast.Proofs.Fallible
import TableCast.Proofs.Name.SortedNames

/-!
# The enum types of a table

The enum types of a table are built from its value lists one by one.  A column that is listed
again has its enum type replaced, so the columns of the enum types stay distinct.

**Results.**
* `enumTypeOf_ok`: what the enum type of one value list tells.
* `BuiltFrom.step`, `enumTypes_ok`: a table has one enum type for each column with a considered
  value list.
* `columns_enumTypes`, `enumTypes_sorted`: the enum types come by column.
-/

namespace TableCast
namespace Model

open Name Schema Fallible Reordering

section Building

variable {n : Normalizer} {typeNames : List (String × String)} {table : Table}
variable {values : ValueList} {e d : EnumType} {built : List EnumType}

/-- Putting an enum type into a list adds its column at the end or keeps all columns. -/
theorem columns_putEnum (e : EnumType) :
    ∀ built : List EnumType,
      (putEnum e built).map (·.column) =
        if e.column ∈ built.map (·.column) then built.map (·.column)
        else built.map (·.column) ++ [e.column]
  | [] => rfl
  | d :: rest => by
      by_cases hd : d.column = e.column
      · have hput : putEnum e (d :: rest) = e :: rest := by simp [putEnum, hd]
        rw [hput, List.map_cons, List.map_cons, hd, if_pos (List.mem_cons_self ..)]
      · have hput : putEnum e (d :: rest) = d :: putEnum e rest := by simp [putEnum, hd]
        have hmem : e.column ∈ d.column :: rest.map (·.column) ↔
            e.column ∈ rest.map (·.column) := by
          simp [show e.column ≠ d.column from fun he => hd he.symm]
        rw [hput, List.map_cons, List.map_cons, columns_putEnum e rest]
        simp only [hmem]
        split_ifs
        · rfl
        · rfl

/-- A member of the new list is the new enum type or one of the old list. -/
theorem mem_putEnum (h : d ∈ putEnum e built) : d = e ∨ d ∈ built := by
  induction built with
  | nil =>
      left
      simpa [putEnum] using h
  | cons first rest ih =>
      rw [putEnum] at h
      split_ifs at h
      · exact (List.mem_cons.mp h).imp_right (List.mem_cons_of_mem _)
      · rcases List.mem_cons.mp h with rfl | h
        · exact Or.inr (List.mem_cons_self ..)
        · exact (ih h).imp_right (List.mem_cons_of_mem _)

/-- The enum type that a value list of a table gives. -/
structure EnumOf (n : Normalizer) (typeNames : List (String × String)) (owner : Table)
    (values : ValueList) (e : EnumType) : Prop where
  table : e.table = owner.name
  column : e.column = values.column
  /-- It has the type name that the run gives to the column. -/
  typeName : e.typeName = enumTypeNameFor n typeNames owner.name values.column
  /-- It has the cases of the values. -/
  cases : n.enumCases values.values (some owner.name) (some values.column) = .ok e.cases
  multiple : e.multiple = values.multiple

theorem enumTypeOf_ok (h : enumTypeOf n typeNames table values = .ok e) :
    EnumOf n typeNames table values e := by
  obtain ⟨cases, hcases, he⟩ := bind_eq_ok.mp h
  obtain rfl := pure_eq_ok.mp he
  exact ⟨rfl, rfl, rfl, hcases, rfl⟩

/-- What the enum types keep from one value list to the next. -/
structure BuiltFrom (n : Normalizer) (typeNames : List (String × String)) (table : Table)
    (before : List ValueList) (built : List EnumType) : Prop where
  /-- A column has at most one enum type. -/
  distinct : (built.map (·.column)).Nodup
  /-- The columns are those of the value lists. -/
  columns : ∀ column, column ∈ built.map (·.column) ↔ column ∈ before.map (·.column)
  /-- Every enum type comes from a value list. -/
  sound : ∀ e ∈ built, ∃ values ∈ before, EnumOf n typeNames table values e

theorem BuiltFrom.step
    {before : List ValueList}
    (h : BuiltFrom n typeNames table before built) (he : EnumOf n typeNames table values e) :
    BuiltFrom n typeNames table (before ++ [values]) (putEnum e built) := by
  refine ⟨?_, ?_, ?_⟩
  · rw [columns_putEnum]
    split_ifs with hmem
    · exact h.distinct
    · rw [← List.concat_eq_append]
      exact List.Nodup.concat hmem h.distinct
  · intro column
    rw [columns_putEnum, List.map_append, List.mem_append, List.map_singleton, List.mem_singleton,
      ← h.columns, ← he.column]
    split_ifs with hmem
    · constructor
      · exact Or.inl
      · rintro (hold | rfl)
        · exact hold
        · exact hmem
    · rw [List.mem_append, List.mem_singleton]
  · intro d hd
    rcases mem_putEnum hd with rfl | hd
    · exact ⟨values, List.mem_append_right _ (List.mem_singleton_self _), he⟩
    · obtain ⟨v, hv, hsound⟩ := h.sound d hd
      exact ⟨v, List.mem_append_left _ hv, hsound⟩

/-- A table has one enum type for each column with a considered value list. -/
theorem enumTypes_ok (h : enumTypes n typeNames table = .ok built) :
    BuiltFrom n typeNames table (consideredLists table) built := by
  refine foldlM_ok_induction (motive := BuiltFrom n typeNames table) ?_ ?_ h
  · exact ⟨List.nodup_nil, fun column => Iff.rfl, fun e he => absurd he List.not_mem_nil⟩
  · intro before values built next _ hbuilt hnext
    obtain ⟨e, he, hput⟩ := bind_eq_ok.mp hnext
    obtain rfl := pure_eq_ok.mp hput
    exact hbuilt.step (enumTypeOf_ok he)

/-- The columns of the enum types are those of the considered value lists, each once. -/
theorem columns_enumTypes (h : enumTypes n typeNames table = .ok built) :
    built.map (·.column) = ((consideredLists table).map (·.column)).eraseDups := by
  refine foldlM_ok_induction
    (motive := fun before (built : List EnumType) =>
      built.map (·.column) = (before.map (·.column)).eraseDups) rfl ?_ h
  intro before values built next _ hbuilt hnext
  obtain ⟨e, he, hput⟩ := bind_eq_ok.mp hnext
  obtain rfl := pure_eq_ok.mp hput
  rw [columns_putEnum, hbuilt, (enumTypeOf_ok he).column, List.map_append, List.map_singleton,
    eraseDups_concat]
  simp only [List.mem_eraseDups]

/-- The enum types of a table are in the order of their columns. -/
theorem enumTypes_sorted (h : enumTypes n typeNames table = .ok built) :
    built.Pairwise (·.column < ·.column) := by
  have hsorted : ((consideredLists table).map (·.column)).Pairwise (· ≤ ·) := by
    rw [List.pairwise_map]
    refine (List.pairwise_mergeSort ?_ ?_ _).imp of_decide_eq_true
    · exact fun u v w => Scope.nameLe_trans u.column v.column w.column
    · exact fun v w => Scope.nameLe_total v.column w.column
  have hle : (built.map (·.column)).Pairwise (· ≤ ·) := by
    rw [columns_enumTypes h]
    exact hsorted.sublist (eraseDups_sublist _)
  have hlt := hle.imp₂ (fun _ _ hle hne => lt_of_le_of_ne hle hne) (enumTypes_ok h).distinct
  exact List.pairwise_map.mp hlt

end Building

end Model
end TableCast
