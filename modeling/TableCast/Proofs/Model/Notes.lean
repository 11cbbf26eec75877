import TableCast.Proofs.Model.Extraction
import TableCast.Model.Association

/-!
# What is noted during an assembly

Notes are told apart by their codes.  A warning about an unresolved association has a code of
its own: no fault and no warning about a column has it.

**Results.**
* `code_tableError`, `code_ofFault`: the fault that excludes a table has the code of its kind.
* `warning_describeColumn`, `warnings_extract`: what is noted about columns is that their types
  are unknown.
* `extractionNotes_of_extract`: the notes about a table that gets its columns are those about each
  column in turn.
* `table_of_extractionNotes`: what is noted about a table is noted under its name.
* `code_extractionNotes`, `code_ofFault_ne`: only linking notes unresolved associations.
-/

namespace TableCast
namespace Model

open Name Schema Fallible

section Codes

@[simp] theorem code_note (fault : Fault) (key value : String) :
    (fault.note key value).code = fault.code := by
  rw [Fault.note]
  split_ifs
  · rfl
  · rfl

@[simp] theorem code_note? (fault : Fault) (key : String) (value : Option String) :
    (fault.note? key value).code = fault.code := by
  cases value with
  | none => rfl
  | some value => exact code_note fault key value

/-- The fault that excludes a table has the code of its kind. -/
theorem code_tableError (e : TableError) : ∃ kind : FaultKind, e.fault.code = kind.code := by
  cases e with
  | key e =>
      cases e with
      | fewerColumns key source target targetKey =>
          exact ⟨.partialKey, by simp [TableError.fault, KeyError.fault, partialKeyFault]⟩
      | countMismatch key source targets =>
          exact ⟨.schemaRead, by simp [TableError.fault, KeyError.fault]⟩
      | partOfKey key source target targetKey =>
          exact ⟨.partialKey, by simp [TableError.fault, KeyError.fault, partialKeyFault]⟩
  | collision e => exact ⟨.enumCollision, by simp [TableError.fault, EnumCollision.fault]⟩
  | default table state digits =>
      exact ⟨.metadataExtraction, by simp [TableError.fault, extractionFault]⟩
  | unfinished table state =>
      exact ⟨.metadataExtraction, by simp [TableError.fault, extractionFault]⟩

/-- The note about an excluded table has the code of a kind of fault. -/
theorem code_ofFault (table : Option String) (e : TableError) (artifact : Option String) :
    ∃ kind : FaultKind, (Diagnostic.ofFault table e.fault artifact).code = lowerCode kind.code := by
  obtain ⟨kind, hkind⟩ := code_tableError e
  exact ⟨kind, congrArg lowerCode hkind⟩

/-- The note about an excluded table is no warning about an association. -/
theorem code_ofFault_ne (table : Option String) (e : TableError) (artifact : Option String) :
    (Diagnostic.ofFault table e.fault artifact).code ≠ unresolvedCode := by
  obtain ⟨kind, hkind⟩ := code_ofFault table e artifact
  rw [hkind]
  cases kind <;> decide

/-- Nor is it a warning about the type of a column. -/
theorem code_ofFault_ne_fallback
    (table : Option String) (e : TableError) (artifact : Option String) :
    (Diagnostic.ofFault table e.fault artifact).code ≠ fallbackCode := by
  obtain ⟨kind, hkind⟩ := code_ofFault table e artifact
  rw [hkind]
  cases kind <;> decide

end Codes

namespace Assembler

section Notes

variable {a : Assembler} {typeNames : List (String × String)} {tables : List Table}
variable {table : Table} {enums : List EnumType} {fieldNames : List (String × String)}

/-- What is noted about a column is that its type is unknown. -/
theorem warning_describeColumn {raw : Schema.Column} {d : Diagnostic}
    (hd : d ∈ (a.describeColumn table enums fieldNames raw).1) :
    d = fallbackWarning table.name raw := by
  simp only [describeColumn] at hd
  split_ifs at hd with hfallback
  · exact List.mem_singleton.mp hd
  · exact absurd hd List.not_mem_nil

theorem warnings_describeColumns :
    ∀ (raw : List Schema.Column), ∀ d ∈ (a.describeColumns table enums fieldNames raw).1,
      ∃ c ∈ raw, d = fallbackWarning table.name c
  | [], d, hd => absurd hd List.not_mem_nil
  | c :: raw, d, hd => by
      have hfirst : ∀ d ∈ (a.describeColumn table enums fieldNames c).1,
          d = fallbackWarning table.name c := fun d hd => warning_describeColumn hd
      rw [describeColumns] at hd
      rcases hc : a.describeColumn table enums fieldNames c with ⟨warnings, e | described⟩
      · rw [hc] at hd hfirst
        exact ⟨c, List.mem_cons_self .., hfirst d hd⟩
      · rw [hc] at hd hfirst
        rcases List.mem_append.mp hd with hd | hd
        · exact ⟨c, List.mem_cons_self .., hfirst d hd⟩
        · obtain ⟨other, hother, heq⟩ := warnings_describeColumns raw d hd
          exact ⟨other, List.mem_cons_of_mem _ hother, heq⟩

theorem warnings_extract {d : Diagnostic} (hd : d ∈ (a.extract typeNames tables table).1) :
    ∃ c ∈ table.columns, d = fallbackWarning table.name c := by
  rw [extract] at hd
  cases hvalid : validateKeys table tables with
  | error e =>
      rw [hvalid] at hd
      exact absurd hd List.not_mem_nil
  | ok _ =>
      rw [hvalid] at hd
      cases henums : a.tableEnums typeNames table with
      | error e =>
          rw [henums] at hd
          exact absurd hd List.not_mem_nil
      | ok enums =>
          rw [henums] at hd
          exact warnings_describeColumns table.columns d hd

/-- What is noted about a table while it gets its columns is noted under its name. -/
theorem table_of_extractionNotes {d : Diagnostic}
    (hd : d ∈ a.extractionNotes typeNames tables table) : d.table = some table.name := by
  rw [extractionNotes] at hd
  rcases List.mem_append.mp hd with hd | hd
  · obtain ⟨c, -, rfl⟩ := warnings_extract hd
    rfl
  · cases hextract : (a.extract typeNames tables table).2 with
    | error e =>
        rw [hextract] at hd
        rw [List.mem_singleton.mp hd]
        rfl
    | ok entity =>
        rw [hextract] at hd
        exact absurd hd List.not_mem_nil

/-- When all columns are described, each of them has been noted. -/
theorem warnings_of_described :
    ∀ {raw : List Schema.Column} {columns : List Column},
      (a.describeColumns table enums fieldNames raw).2 = .ok columns →
      (a.describeColumns table enums fieldNames raw).1 =
        raw.flatMap fun c => (a.describeColumn table enums fieldNames c).1
  | [], _, _ => rfl
  | c :: raw, columns, h => by
      rw [describeColumns] at h ⊢
      rw [List.flatMap_cons]
      rcases hc : a.describeColumn table enums fieldNames c with ⟨warnings, e | described⟩
      · rw [hc] at h
        cases h
      · rw [hc] at h
        obtain ⟨rest, hrest, -⟩ := map_eq_ok.mp h
        exact congrArg (warnings ++ ·) (warnings_of_described hrest)

/-- The notes about a table that gets its columns are those about each column in turn. -/
theorem extractionNotes_of_extract {entity : Entity}
    (h : (a.extract typeNames tables table).2 = .ok entity) :
    a.extractionNotes typeNames tables table =
      table.columns.flatMap fun c =>
        (a.describeColumn table entity.enums (a.fieldNames table) c).1 := by
  obtain ⟨hvalid, enums, columns, henums, hcolumns, rfl⟩ := extract_ok h
  have hwarnings : (a.extract typeNames tables table).1 =
      (a.describeColumns table enums (a.fieldNames table) table.columns).1 := by
    rw [extract, hvalid, henums]
  rw [extractionNotes, h, List.append_nil, hwarnings, warnings_of_described hcolumns]

/-- Nothing that is noted while a table gets its columns is about an association. -/
theorem code_extractionNotes {d : Diagnostic} (hd : d ∈ a.extractionNotes typeNames tables table) :
    d.code ≠ unresolvedCode := by
  rw [extractionNotes] at hd
  rcases List.mem_append.mp hd with hd | hd
  · obtain ⟨c, -, rfl⟩ := warnings_extract hd
    show fallbackCode ≠ unresolvedCode
    decide
  · cases hextract : (a.extract typeNames tables table).2 with
    | error e =>
        rw [hextract] at hd
        rw [List.mem_singleton.mp hd]
        exact code_ofFault_ne _ e _
    | ok entity =>
        rw [hextract] at hd
        exact absurd hd List.not_mem_nil

end Notes

end Assembler
end Model
end TableCast
