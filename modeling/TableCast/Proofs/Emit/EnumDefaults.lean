import TableCast.Emit.Doctrine.Value
import TableCast.Emit.Python.Value
import TableCast.Proofs.Model.EnumCases
import TableCast.Proofs.Model.TypedColumns
import TableCast.Proofs.Text.Pieces

/-!
# The defaults of enum columns

The default of a column with an enum type is written twice, for Python and for PHP.  Both look the
value up among the declared ones and write its case; a column that holds any combination of values
has a comma-separated default, of which both keep the parts that are declared.

**Agreement.**  `SameCase` and `SameCases` say what two written defaults have in common.  Neither of
them speaks of the column, so whether it may be empty or is numbered by the database makes no
difference.

**Results.**
* `python_default_of_enum`, `doctrine_default_of_enum`: the default in each of the two languages.
* `sameDefault_of_invertible`: they agree when the look-ups of the enum type are inverse.
* `enum_defaults_agree`: they agree for every enum type of a table.
-/

namespace TableCast
namespace Emit

open Text Model
open Schema (SemanticType Table Value)

section Parts

variable {t : EnumType} {listed value : String}

/-- The parts of a comma-separated text that are declared values, in their order. -/
def keptValues (t : EnumType) (listed : String) : List String :=
  ((listed.toList.splitOn ',').map String.ofList).filter t.rawValues.contains

theorem declaredMembers_eq (t : EnumType) (listed : String) :
    Python.declaredMembers t listed = keptValues t listed := by
  rw [Python.declaredMembers, splitOn, splitOnChar_eq_splitOnP, keptValues,
    List.splitOn_eq_splitOnP]

theorem mem_rawValues_of_kept (h : value ∈ keptValues t listed) : value ∈ t.rawValues :=
  List.contains_iff_mem.mp (List.mem_filter.mp h).2

end Parts

/-- Two written defaults of a column with one value: both are absent, and the value is not declared,
or both name the enum type and a case, and the case is that of the value. -/
inductive SameCase (t : EnumType) (value : String) : Option String → Option String → Prop
  | absent (hundeclared : value ∉ t.rawValues) : SameCase t value none none
  | named (caseName : String) (hdeclared : value ∈ t.rawValues)
      (hvalue : t.rawValueFor? caseName = some value) :
      SameCase t value (some (t.typeName ++ "." ++ caseName))
        (some (t.typeName ++ "::" ++ caseName))

/-- Two written defaults of a column with any combination of values: both list the declared parts of
the text in their order, the first one by their cases and the second one by their literals.  The
first one is absent when there is no such part. -/
inductive SameCases (t : EnumType) (listed : String) : Option String → Option String → Prop
  | absent (hnone : keptValues t listed = []) : SameCases t listed none (some "[]")
  | named (caseNames : List String) (hsome : keptValues t listed ≠ [])
      (hvalues : List.Forall₂ (fun value caseName => t.rawValueFor? caseName = some value)
        (keptValues t listed) caseNames) :
      SameCases t listed
        (some ("frozenset(\x7b" ++
          joinWith ", " (caseNames.map fun caseName => t.typeName ++ "." ++ caseName) ++ "\x7d)"))
        (some ("[" ++ joinWith ", " ((keptValues t listed).map Doctrine.singleQuoted) ++ "]"))

/-- Both languages write the same default for a column. -/
def SameDefault (t : EnumType) (text : String) (c : Column) : Prop :=
  if t.multiple then SameCases t text (Python.default? c) (Doctrine.default? c)
  else SameCase t text (Python.default? c) (Doctrine.default? c)

/-- A column that has an enum type and a text as its static default.  The defaults of temporal and
structured columns are not written as values. -/
structure EnumDefault (c : Column) (t : EnumType) (text : String) : Prop where
  enum : c.enum = some t
  default : c.default = some (.text text)
  temporal : c.semantic.isTemporal = false
  structured : c.semantic ≠ .structured

section Columns

variable {c : Column} {t : EnumType} {text : String}

theorem python_default_of_enum (h : EnumDefault c t text) :
    Python.default? c =
      if t.multiple then
        if (keptValues t text).filterMap t.caseNameFor? = [] then none
        else some ("frozenset(\x7b" ++ joinWith ", "
          (((keptValues t text).filterMap t.caseNameFor?).map (Python.member t)) ++ "\x7d)")
      else (t.caseNameFor? text).map (Python.member t) := by
  have hwritten : (c.semantic.isTemporal || c.semantic == .structured) = false := by
    rw [h.temporal, Bool.false_or, beq_eq_false_iff_ne]
    exact h.structured
  rw [Python.default?, h.default, h.enum]
  dsimp only [Value.plain]
  rw [hwritten, declaredMembers_eq]
  simp only [List.isEmpty_iff]
  rfl

theorem doctrine_default_of_enum (h : EnumDefault c t text) :
    Doctrine.default? c =
      if t.multiple then
        some ("[" ++ joinWith ", " ((keptValues t text).map Doctrine.singleQuoted) ++ "]")
      else (t.caseNameFor? text).map (Doctrine.enumCase t) := by
  have hwritten : (c.semantic == .structured) = false := beq_eq_false_iff_ne.mpr h.structured
  rw [Doctrine.default?, h.default]
  dsimp only
  rw [h.temporal, hwritten, Doctrine.valueDefault?, h.enum, ← declaredMembers_eq]
  rfl

/-- Declared values have cases, and these are looked up one by one. -/
theorem caseNames_of_declared (h : t.Invertible) {values : List String}
    (hvalues : ∀ value ∈ values, value ∈ t.rawValues) :
    List.Forall₂ (fun value caseName => t.rawValueFor? caseName = some value) values
      (values.filterMap t.caseNameFor?) := by
  induction values with
  | nil => exact .nil
  | cons value values ih =>
      obtain ⟨hvalue, hrest⟩ := List.forall_mem_cons.mp hvalues
      obtain ⟨caseName, hcase⟩ := (h.values value).mp hvalue
      rw [List.filterMap_cons_some hcase]
      exact .cons ((h.inverse value caseName).mp hcase) (ih hrest)

theorem sameDefault_of_invertible (ht : t.Invertible) (h : EnumDefault c t text) :
    SameDefault t text c := by
  have hdeclared : ∀ value ∈ keptValues t text, value ∈ t.rawValues :=
    fun _ => mem_rawValues_of_kept
  have hcases := caseNames_of_declared ht hdeclared
  rw [SameDefault, python_default_of_enum h, doctrine_default_of_enum h]
  split_ifs with hmultiple hnone
  · rw [hnone] at hcases
    have hkept := List.forall₂_nil_right_iff.mp hcases
    rw [hkept]
    exact .absent hkept
  · refine .named _ (fun hkept => hnone ?_) hcases
    rw [hkept]
    rfl
  · cases hcase : t.caseNameFor? text with
    | none =>
        refine .absent fun hdeclared => ?_
        obtain ⟨caseName, hsome⟩ := (ht.values text).mp hdeclared
        rw [hcase] at hsome
        cases hsome
    | some caseName =>
        exact .named caseName ((ht.values text).mpr ⟨caseName, hcase⟩)
          ((ht.inverse text caseName).mp hcase)

/-- A column that is described with an enum type is of the enumerated type. -/
theorem enumDefault_of_describeColumn {a : Assembler} {table : Table} {enums : List EnumType}
    {fieldNames : List (String × String)} {raw : Schema.Column}
    (hcolumn : (a.describeColumn table enums fieldNames raw).2 = .ok c) (henum : c.enum = some t)
    (hdefault : c.default = some (.text text)) : EnumDefault c t text := by
  obtain ⟨hsemantic, -, hfound, -⟩ := typing_of_describeColumn hcolumn
  have henumerated : c.semantic = .enumerated := by
    rw [hsemantic]
    refine enumerated_typeColumn_iff.mpr ?_
    rw [← hfound, henum]
    rfl
  refine ⟨henum, hdefault, ?_, ?_⟩
  · rw [henumerated]
    rfl
  · rw [henumerated]
    decide

end Columns

section Tables

variable {n : Name.Normalizer} {typeNames : List (String × String)} {table : Table}
variable {built : List EnumType} {t : EnumType}

/-- **The defaults of enum columns agree.**  Take an enum type of a table, and a column that has it
and a text as its static default.  If the column can hold one value, both languages leave the
default out, which they do exactly when it is not declared, or both write the case whose value it
is.  If it can hold any combination of values, both keep the declared parts of the default in their
order.  This holds of every column that is described with the enum types of the table, and of any
other column that is neither temporal nor structured. -/
theorem enum_defaults_agree (hbuilt : enumTypes n typeNames table = .ok built) (ht : t ∈ built) :
    (∀ (a : Assembler) (fieldNames : List (String × String)) (raw : Schema.Column) (c : Column)
      (text : String), (a.describeColumn table built fieldNames raw).2 = .ok c →
        c.enum = some t → c.default = some (.text text) → SameDefault t text c) ∧
    ∀ (c : Column) (text : String), EnumDefault c t text → SameDefault t text c := by
  obtain ⟨values, -, hof⟩ := (enumTypes_ok hbuilt).sound t ht
  have hinvertible := invertible_of_enumOf hof
  refine ⟨fun a fieldNames raw c text hcolumn henum hdefault => ?_, fun c text h => ?_⟩
  · exact sameDefault_of_invertible hinvertible
      (enumDefault_of_describeColumn hcolumn henum hdefault)
  · exact sameDefault_of_invertible hinvertible h

end Tables

section Sample

/-- A table with a column for any combination of flags and a column for one state. -/
def posts : Table :=
  { name := "post"
    columns := [
      { name := "flags", nativeType := "set", default := some "'locked,gone,pinned'" },
      { name := "state", nativeType := "enum", nullable := false, default := some "'live'" }]
    valueLists := [
      { column := "flags", values := ["pinned", "locked"], multiple := true },
      { column := "state", values := ["draft", "live"] }] }

/-- The enum type of the flags. -/
def postFlags : EnumType :=
  { typeName := "PostFlagsEnum"
    cases := [("pinned", "PINNED"), ("locked", "LOCKED")]
    table := "post"
    column := "flags"
    multiple := true }

/-- The enum type of the state. -/
def postState : EnumType :=
  { typeName := "PostStateEnum"
    cases := [("draft", "DRAFT"), ("live", "LIVE")]
    table := "post"
    column := "state" }

/-- The column of the flags, one of which is not declared any more. -/
def flagsOfPost : Column :=
  { name := "flags"
    fieldName := "flags"
    semantic := .enumerated
    nativeType := "set"
    nullable := true
    default := some (.text "locked,gone,pinned")
    enum := some postFlags }

/-- The column of the state. -/
def stateOfPost : Column :=
  { name := "state"
    fieldName := "state"
    semantic := .enumerated
    nativeType := "enum"
    nullable := false
    default := some (.text "live")
    enum := some postState
    comment := some "Possible values: 'draft', 'live'" }

/-- The defaults of both columns: the declared flags are kept in the order of the default. -/
theorem enum_defaults_of_posts :
    enumTypes {} [] posts = .ok [postFlags, postState] ∧
      EnumDefault flagsOfPost postFlags "locked,gone,pinned" ∧
      keptValues postFlags "locked,gone,pinned" = ["locked", "pinned"] ∧
      SameDefault postFlags "locked,gone,pinned" flagsOfPost ∧
      (forPython.describeColumn posts [postFlags, postState] [("state", "state")]
        { name := "state", nativeType := "enum", nullable := false, default := some "'live'" }).2 =
          .ok stateOfPost ∧
      SameDefault postState "live" stateOfPost := by
  have hbuilt : enumTypes {} [] posts = .ok [postFlags, postState] := by cbv
  have hflags : EnumDefault flagsOfPost postFlags "locked,gone,pinned" :=
    ⟨rfl, rfl, rfl, by decide⟩
  have hstate : (forPython.describeColumn posts [postFlags, postState] [("state", "state")]
      { name := "state", nativeType := "enum", nullable := false, default := some "'live'" }).2 =
        .ok stateOfPost := rfl
  obtain ⟨-, hany⟩ := enum_defaults_agree hbuilt (List.mem_cons_self ..)
  obtain ⟨hdescribed, -⟩ :=
    enum_defaults_agree hbuilt (List.mem_cons_of_mem _ (List.mem_singleton_self _))
  exact ⟨hbuilt, hflags, by decide, hany _ _ hflags, hstate,
    hdescribed _ _ _ _ "live" hstate rfl rfl⟩

end Sample

end Emit
end TableCast
