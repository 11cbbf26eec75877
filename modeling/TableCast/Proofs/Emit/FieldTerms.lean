import TableCast.Emit.Python.Entity
import Mathlib

/-!
# Annotations and defaults as terms

An annotation and a default are texts in the lines of a field.  As terms, the generated types in
them can be told from other words.

**Results.**
* `text_columnType`, `text_defaultTerm`: the terms are what is written.
* `memberLine_mem_columnLines` and its companions: the lines that they are written in.
* `defaultTerm_cases`: what the default of a column can be.
* `mem_types_fieldType` and its companions: the types that a field names.
-/

namespace TableCast
namespace Emit
namespace Python

open Text Model
open Schema (SemanticType Value)

/-- An annotation. -/
inductive TypeTerm where
  | builtin (semantic : SemanticType)
  | any
  | generated (typeName : String)
  | frozenSet (t : TypeTerm)
  | optional (t : TypeTerm)

namespace TypeTerm

/-- How an annotation is written. -/
def text : TypeTerm → String
  | builtin semantic => plainType semantic
  | any => "Any"
  | generated typeName => typeName
  | frozenSet t => "FrozenSet[" ++ t.text ++ "]"
  | optional t => "Optional[" ++ t.text ++ "]"

/-- The generated types that an annotation names. -/
def types : TypeTerm → List String
  | builtin _ => []
  | any => []
  | generated typeName => [typeName]
  | frozenSet t => t.types
  | optional t => t.types

end TypeTerm

/-- A default. -/
inductive ValueTerm where
  | literal (value : Value)
  | member (e : EnumType) (caseName : String)
  | members (e : EnumType) (caseNames : List String)

namespace ValueTerm

/-- How a default is written. -/
def text : ValueTerm → String
  | literal value => Python.literal value
  | member e caseName => Python.member e caseName
  | members e caseNames =>
    "frozenset(\x7b" ++ joinWith ", " (caseNames.map (Python.member e)) ++ "\x7d)"

/-- The generated types that a default names. -/
def types : ValueTerm → List String
  | literal _ => []
  | member e _ => [e.typeName]
  | members e _ => [e.typeName]

end ValueTerm

/-- The annotation of a column, whether or not a value may be missing. -/
def columnType (c : Column) : TypeTerm :=
  match c.enum with
  | some e => if e.multiple then .frozenSet (.generated e.typeName) else .generated e.typeName
  | none => .builtin c.semantic

/-- The annotation of the field of a column. -/
def fieldType (c : Column) : TypeTerm :=
  if isOptional c then .optional (columnType c) else columnType c

/-- The annotation of the field of an association. -/
def linkType (l : Association) : TypeTerm :=
  match l.targetType with
  | none => .any
  | some target => .optional (.generated target)

/-- The default of the field of a column. -/
def defaultTerm (c : Column) : Option ValueTerm :=
  match c.default with
  | none => none
  | some value =>
    if c.semantic.isTemporal || c.semantic == .structured then none
    else match c.enum with
      | none => some (.literal value)
      | some e =>
        if e.multiple then
          let members := (declaredMembers e value.plain).filterMap e.caseNameFor?
          if members.isEmpty then none else some (.members e members)
        else match value with
          | .text s => (e.caseNameFor? s).map (.member e)
          | _ => none

/-- The line that starts a field. -/
def memberLine (name : String) (t : TypeTerm) : String :=
  "    " ++ name ++ ": " ++ t.text ++ " = field("

/-- The line of the default of a field. -/
def defaultLine (t : ValueTerm) : String :=
  match t with
  | .members _ _ => "        default_factory=lambda: " ++ t.text ++ ","
  | _ => "        default=" ++ t.text ++ ","

section Terms

variable {c : Column} {l : Association} {typeName : String}

theorem text_columnType (c : Column) : (columnType c).text = typeOf c := by
  rw [columnType, typeOf]
  cases c.enum with
  | none => rfl
  | some e =>
      dsimp only
      split_ifs
      · rfl
      · rfl

theorem text_defaultTerm (c : Column) : (defaultTerm c).map ValueTerm.text = default? c := by
  rw [defaultTerm, default?]
  cases c.default with
  | none => rfl
  | some value =>
      dsimp only
      split_ifs
      · rfl
      · cases c.enum with
        | none => rfl
        | some e =>
            dsimp only
            split_ifs
            · rfl
            · rfl
            · cases value with
              | text s =>
                  dsimp only
                  rw [Option.map_map]
                  rfl
              | _ => rfl

theorem memberLine_mem_columnLines (c : Column) :
    memberLine c.fieldName (fieldType c) ∈ columnLines c := by
  have htext : (fieldType c).text =
      if isOptional c then "Optional[" ++ typeOf c ++ "]" else typeOf c := by
    rw [fieldType, ← text_columnType]
    split_ifs
    · rfl
    · rfl
  rw [memberLine, htext, columnLines]
  simp

theorem memberLine_mem_associationLines (l : Association) :
    memberLine l.name (linkType l) ∈ associationLines l := by
  rw [memberLine, linkType, associationLines]
  cases l.targetType with
  | none => simp [TypeTerm.text, String.append_assoc]
  | some target =>
      have hcolon : ": " ++ ("Optional[" ++ (target ++ "] = field(")) =
          ": Optional[" ++ (target ++ "] = field(") :=
        String.append_assoc.symm
      simp [TypeTerm.text, String.append_assoc, hcolon]

theorem mem_caseNames {e : EnumType} {value name : String} (h : e.caseNameFor? value = some name) :
    name ∈ e.caseNames := by
  obtain ⟨pair, hpair, rfl⟩ := Option.map_eq_some_iff.mp h
  exact List.mem_map_of_mem (List.mem_of_find?_eq_some hpair)

/-- A default is a literal, or it is made of members of the enum type of its column. -/
theorem defaultTerm_cases {t : ValueTerm} (h : defaultTerm c = some t) :
    (∃ value, c.enum = none ∧ t = .literal value) ∨
      ∃ e, c.enum = some e ∧
        ((∃ name ∈ e.caseNames, e.multiple = false ∧ t = .member e name) ∨
          ∃ members, (∀ name ∈ members, name ∈ e.caseNames) ∧ e.multiple = true ∧
            t = .members e members) := by
  rw [defaultTerm] at h
  cases hdefault : c.default with
  | none =>
      rw [hdefault] at h
      cases h
  | some value =>
      rw [hdefault] at h
      dsimp only at h
      split_ifs at h
      cases henum : c.enum with
      | none =>
          rw [henum] at h
          exact Or.inl ⟨value, rfl, (Option.some.inj h).symm⟩
      | some e =>
          rw [henum] at h
          dsimp only at h
          refine Or.inr ⟨e, rfl, ?_⟩
          split_ifs at h with hmultiple
          · refine Or.inr ⟨_, fun name hname => ?_, hmultiple, (Option.some.inj h).symm⟩
            obtain ⟨raw, -, hcase⟩ := List.mem_filterMap.mp hname
            exact mem_caseNames hcase
          · cases value with
            | text s =>
                obtain ⟨name, hcase, rfl⟩ := Option.map_eq_some_iff.mp h
                exact Or.inl ⟨name, mem_caseNames hcase, Bool.eq_false_iff.mpr hmultiple, rfl⟩
            | _ => cases h

theorem defaultLines_eq {t : ValueTerm} (h : defaultTerm c = some t) :
    defaultLines c = [defaultLine t] := by
  have htext : default? c = some t.text := by rw [← text_defaultTerm, h, Option.map_some]
  rw [defaultLines, htext]
  dsimp only
  rcases defaultTerm_cases h with ⟨value, henum, rfl⟩ |
    ⟨e, henum, ⟨name, -, hsingle, rfl⟩ | ⟨members, -, hmultiple, rfl⟩⟩
  · rw [henum]
    rfl
  · rw [henum, Option.map_some, Option.getD_some, hsingle]
    rfl
  · rw [henum, Option.map_some, Option.getD_some, hmultiple]
    rfl

theorem defaultLine_mem_columnLines {t : ValueTerm} (h : defaultTerm c = some t) :
    defaultLine t ∈ columnLines c := by
  have hline : defaultLine t ∈ defaultLines c := by
    rw [defaultLines_eq h]
    exact List.mem_singleton_self _
  rw [columnLines]
  simp [hline]

/-- The field of a column names the enum type of the column and no other. -/
theorem mem_types_fieldType (h : typeName ∈ (fieldType c).types) :
    ∃ e, c.enum = some e ∧ e.typeName = typeName := by
  have hcolumn : typeName ∈ (columnType c).types := by
    rw [fieldType] at h
    split_ifs at h
    · exact h
    · exact h
  rw [columnType] at hcolumn
  cases henum : c.enum with
  | none =>
      rw [henum] at hcolumn
      exact absurd hcolumn List.not_mem_nil
  | some e =>
      rw [henum] at hcolumn
      dsimp only at hcolumn
      refine ⟨e, rfl, ?_⟩
      split_ifs at hcolumn
      · exact (List.mem_singleton.mp hcolumn).symm
      · exact (List.mem_singleton.mp hcolumn).symm

theorem mem_types_defaultTerm {t : ValueTerm} (h : defaultTerm c = some t)
    (htype : typeName ∈ t.types) : ∃ e, c.enum = some e ∧ e.typeName = typeName := by
  rcases defaultTerm_cases h with ⟨value, -, rfl⟩ |
    ⟨e, henum, ⟨name, -, -, rfl⟩ | ⟨members, -, -, rfl⟩⟩
  · exact absurd htype List.not_mem_nil
  · exact ⟨e, henum, (List.mem_singleton.mp htype).symm⟩
  · exact ⟨e, henum, (List.mem_singleton.mp htype).symm⟩

theorem mem_types_linkType (h : typeName ∈ (linkType l).types) : l.targetType = some typeName := by
  rw [linkType] at h
  cases htarget : l.targetType with
  | none =>
      rw [htarget] at h
      exact absurd h List.not_mem_nil
  | some target =>
      rw [htarget] at h
      rw [List.mem_singleton.mp h]

end Terms

end Python
end Emit
end TableCast
