import TableCast.Emit.Python.Entity
import TableCast.Proofs.Model.TypedColumns
import TableCast.Proofs.Text.OneLine

/-!
# The comments of columns

The comment of a column is text out of the catalog: what is said about the column there, and behind
it the values that are declared for it.  It is written behind a number sign on a line of its own,
with its line feeds replaced by blanks.

A line also ends at a carriage return, and carriage returns are left in.  So a comment stays on its
line exactly when the catalog has none, neither in what it says nor in a declared value; otherwise
what stands behind a carriage return is read as code.

**Results.**
* `return_mem_describeValues_iff`, `returnFree_iff`: the carriage returns of a comment.
* `mem_linesOf_unlines_iff`: a line that is written is one that is read when it ends no line itself.
* `comments_confined_iff`: the comments of all columns of a module.
* `code_of_returned`: a comment with a line of code.
-/

namespace TableCast
namespace Emit
namespace Python

open Text Model Fallible
open Schema (Table ValueList)

/-- A comment as it is written: a blank for each line feed. -/
def blanked (comment : String) : String :=
  String.ofList (comment.toList.map fun c => if c = '\n' then ' ' else c)

/-- Nothing that the catalog says about a column holds a carriage return. -/
structure ReturnFree (raw : Schema.Column) (declared : Option ValueList) : Prop where
  comment : ∀ comment ∈ raw.comment, '\r' ∉ comment.toList
  values : ∀ list ∈ declared, ∀ value ∈ list.values, '\r' ∉ value.toList

/-- The comment of a column in a module. -/
structure CommentLine (text : String) (raw : Schema.Column) (declared : Option ValueList)
    (comment : String) : Prop where
  /-- The whole comment is between a number sign and the end of the line that is written there. -/
  written : ∃ before after,
    text = unlines before ++ ("    # " ++ blanked comment ++ "\n") ++ unlines after
  /-- It holds no line feed. -/
  feedless : '\n' ∉ (blanked comment).toList
  /-- And it ends no line, unless a carriage return of the catalog does. -/
  oneLine : OneLine (blanked comment) ↔ ReturnFree raw declared
  /-- Then it is a line of the module. -/
  read : "    # " ++ blanked comment ∈ linesOf text ↔ ReturnFree raw declared
  /-- Otherwise what stands behind a carriage return makes lines of its own. -/
  behind : ∀ front back, blanked comment = front ++ "\r" ++ back →
    ∀ line ∈ linesOf back, line ∈ linesOf text

section Comments

variable {raw : Schema.Column} {declared : Option ValueList} {comment : String}

theorem replaced_eq_blanked (comment : String) : replaced comment "\n" " " = blanked comment := by
  have hchars : (replaced comment "\n" " ").toList =
      comment.toList.flatMap (imageOf '\n' [' ']) :=
    toList_replaced rfl
  have himage : imageOf '\n' [' '] = fun c => [if c = '\n' then ' ' else c] := by
    funext c
    rw [imageOf]
    split_ifs
    · rfl
    · rfl
  apply String.toList_injective
  rw [hchars, himage, blanked, String.toList_ofList, List.map_eq_flatMap]

theorem commentLine_eq (comment : String) : commentLine comment = "    # " ++ blanked comment := by
  rw [commentLine, replaced_eq_blanked]

theorem feed_not_mem_blanked (comment : String) : '\n' ∉ (blanked comment).toList := by
  rw [blanked, String.toList_ofList, List.mem_map]
  rintro ⟨c, -, hc⟩
  split_ifs at hc with hfeed
  · exact absurd hc (by decide)
  · exact hfeed hc

theorem oneLine_blanked_iff : OneLine (blanked comment) ↔ '\r' ∉ comment.toList := by
  rw [← replaced_eq_blanked]
  exact oneLine_replaced_iff

/-- The wording of the list of values has no carriage return. -/
theorem return_mem_describeValues_iff {list : ValueList} {comment : Option String} :
    '\r' ∈ (describeValues list comment).toList ↔
      (∃ text ∈ comment, '\r' ∈ text.toList) ∨ ∃ value ∈ list.values, '\r' ∈ value.toList := by
  have hlabel : '\r' ∉
      (if list.multiple then "Possible SET values" else "Possible values").toList := by
    split_ifs
    · decide
    · decide
  have hlisted : '\r' ∈ (joinWith ", " (list.values.map fun v => "'" ++ v ++ "'")).toList ↔
      ∃ value ∈ list.values, '\r' ∈ value.toList := by
    rw [mem_joinWith_iff (by decide)]
    simp [String.toList_append]
  cases comment with
  | none => simp [describeValues, String.toList_append, hlabel, hlisted]
  | some text =>
      by_cases hempty : text = ""
      · simp [describeValues, String.toList_append, hlabel, hlisted, hempty]
      · simp [describeValues, String.toList_append, hlabel, hlisted, hempty]

/-- The comment of a column has no carriage return when the catalog has none. -/
theorem returnFree_iff (h : columnComment raw declared = some comment) :
    '\r' ∉ comment.toList ↔ ReturnFree raw declared := by
  have hcatalog : raw.comment = some comment → (∀ list ∈ declared, list.values = []) →
      ('\r' ∉ comment.toList ↔ ReturnFree raw declared) := by
    intro hcomment hvalues
    constructor
    · intro hfree
      refine ⟨fun text htext => ?_, fun list hlist value hvalue => ?_⟩
      · rwa [Option.some.inj (hcomment.symm.trans htext)] at hfree
      · rw [hvalues list hlist] at hvalue
        exact absurd hvalue List.not_mem_nil
    · exact fun hfree => hfree.comment comment hcomment
  cases declared with
  | none => exact hcatalog h fun list hlist => absurd hlist (Option.not_mem_none list)
  | some list =>
      rw [columnComment] at h
      split_ifs at h with hempty
      · refine hcatalog h fun other hother => ?_
        rw [← Option.some.inj hother]
        exact List.isEmpty_iff.mp hempty
      · rw [← Option.some.inj h, return_mem_describeValues_iff, not_or]
        push Not
        constructor
        · rintro ⟨hcomment, hvalues⟩
          refine ⟨hcomment, fun other hother => ?_⟩
          rw [← Option.some.inj hother]
          exact hvalues
        · exact fun hfree => ⟨hfree.comment, hfree.values list rfl⟩

end Comments

section Modules

variable {context : RenderContext} {e : Entity} {c : Column} {comment line : String}
variable {lines : List String}

/-- A line that is written stands between the lines in front of it and those behind it. -/
theorem exists_unlines_of_mem (h : line ∈ lines) :
    ∃ before after, unlines lines = unlines before ++ (line ++ "\n") ++ unlines after := by
  obtain ⟨before, after, rfl⟩ := List.append_of_mem h
  refine ⟨before, after, ?_⟩
  rw [unlines_append, unlines_cons]
  simp only [String.append_assoc]

/-- What is read of a line that is written. -/
theorem linesOf_subset_unlines (h : line ∈ lines) : linesOf line ⊆ linesOf (unlines lines) := by
  intro read hread
  rw [linesOf_unlines]
  exact List.mem_append_left _ (List.mem_flatMap.mpr ⟨line, h, hread⟩)

/-- A line that is written is one that is read when it ends no line itself. -/
theorem mem_linesOf_unlines_iff (h : line ∈ lines) :
    line ∈ linesOf (unlines lines) ↔ OneLine line := by
  constructor
  · exact oneLine_of_mem_linesOf
  · intro hone
    refine linesOf_subset_unlines h ?_
    rw [linesOf_oneLine hone]
    exact List.mem_singleton_self line

theorem commentLine_mem_entityLines (hc : c ∈ e.columns) (hcomment : c.comment = some comment)
    (hsome : comment ≠ "") : commentLine comment ∈ entityLines context e := by
  have hown : commentLine comment ∈ commentLines c := by
    rw [commentLines, hcomment]
    dsimp only
    rw [if_neg (by simpa using hsome)]
    exact List.mem_singleton_self _
  have hcolumn : commentLine comment ∈ columnLines c := by
    rw [columnLines]
    simp [hown]
  simp only [entityLines, List.mem_append]
  exact Or.inl (Or.inr (List.mem_flatMap.mpr ⟨c, hc, hcolumn⟩))

/-- The comment of a column that was described from the catalog. -/
theorem commentLine_of_columnComment {raw : Schema.Column} {declared : Option ValueList}
    (hc : c ∈ e.columns) (hcomment : c.comment = some comment) (hsome : comment ≠ "")
    (hcatalog : c.comment = columnComment raw declared) :
    CommentLine (entityText context e) raw declared comment := by
  have hmem : "    # " ++ blanked comment ∈ entityLines context e := by
    rw [← commentLine_eq]
    exact commentLine_mem_entityLines hc hcomment hsome
  have hone : OneLine (blanked comment) ↔ ReturnFree raw declared :=
    oneLine_blanked_iff.trans (returnFree_iff (hcatalog.symm.trans hcomment))
  have hstart : OneLine ("    # " ++ blanked comment) ↔ OneLine (blanked comment) := by
    rw [oneLine_append]
    exact and_iff_right (oneLine_text rfl)
  refine ⟨exists_unlines_of_mem hmem, feed_not_mem_blanked comment, hone, ?_, ?_⟩
  · rw [entityText, mem_linesOf_unlines_iff hmem, hstart, hone]
  · intro front back hcut line hline
    refine linesOf_subset_unlines hmem ?_
    rw [hcut, ← String.append_assoc, ← String.append_assoc, linesOf_return]
    exact List.mem_append_right _ hline

end Modules

section Runs

variable {a : Assembler} {names : List String} {tables : List Table}
variable {failures : List (String × String)} {result : Assembly} {e : Entity}

theorem comment_of_describeColumn
    {table : Table} {enums : List EnumType} {fieldNames : List (String × String)}
    {raw : Schema.Column} {c : Column}
    (h : (a.describeColumn table enums fieldNames raw).2 = .ok c) :
    c.comment = columnComment raw (declaredList? table raw.name) := by
  obtain ⟨value, -, rfl⟩ := map_eq_ok.mp h
  rfl

/-- **Comments stay on their lines.**  The columns of an entity have the comments that the catalog
gives them, with the declared values behind.  A module has each of them whole between a number sign
and the end of its line, and it holds no line feed.  It is a line of the module exactly when the
catalog has no carriage return in the comment nor in a declared value; what stands behind one makes
lines of its own, which are read as code. -/
theorem comments_confined_iff (h : a.assemble names tables failures = .ok result)
    (he : e ∈ result.entities) (context : RenderContext) :
    ∃ table, keptTable? tables e.name = some table ∧
      List.Forall₂ (fun (raw : Schema.Column) (c : Column) =>
        c.comment = columnComment raw (declaredList? table raw.name) ∧
        ∀ comment, c.comment = some comment → comment ≠ "" →
          CommentLine (entityText context e) raw (declaredList? table raw.name) comment)
        table.columns e.columns := by
  obtain ⟨table, hkept, -, hdescribed⟩ := exists_described_columns h he
  refine ⟨table, hkept, ?_⟩
  -- Every described column is one of the entity, so its comment is one of the module.
  have hmember := (List.forall₂_and_left _ _).mpr
    ⟨fun c (hc : c ∈ e.columns) => hc, hdescribed.flip⟩
  refine hmember.flip.imp fun raw c ⟨hc, hcolumn⟩ => ?_
  have hcatalog := comment_of_describeColumn hcolumn
  exact ⟨hcatalog, fun comment hcomment hsome =>
    commentLine_of_columnComment hc hcomment hsome hcatalog⟩

/-- A table with one column, assembled on its own: the entity has a column with its comment. -/
theorem exists_comment_of_lone
    {table : Table} {raw : Schema.Column} (hcolumns : table.columns = [raw])
    (hnames : ∀ name, ∃ typeName, a.normalizer.typeName name = .ok typeName)
    (hsources : ∀ key ∈ table.foreignKeys, key.sourceColumns ≠ [])
    (hextract : ∀ typeNames, ∃ entity, (a.extract typeNames [table] table).2 = .ok entity) :
    ∃ result, a.assemble [table.name] [table] [] = .ok result ∧
      ∃ e ∈ result.entities, keptTable? [table] e.name = some table ∧
        ∃ c ∈ e.columns, c.comment = columnComment raw (declaredList? table raw.name) := by
  obtain ⟨result, h, e, he, hname⟩ := Assembler.exists_entity_of_lone hnames hsources hextract
  have hkept := Assembler.keptTable?_singleton hname
  obtain ⟨own, hown, -, hdescribed⟩ := exists_described_columns h he
  obtain rfl := Option.some.inj (hkept.symm.trans hown)
  rw [hcolumns] at hdescribed
  obtain ⟨c, hc, hcolumn⟩ := exists_of_mem_left hdescribed (List.mem_singleton_self raw)
  exact ⟨result, h, e, he, hkept, c, hc, comment_of_describeColumn hcolumn⟩

end Runs

section Sample

/-- A table with a column whose comment and value go on behind line feeds. -/
def noted : Table :=
  { name := "noted"
    columns := [{ name := "kind", nativeType := "text", comment := some "as\nsold" }]
    valueLists := [{ column := "kind", values := ["x\ny"] }] }

theorem considered_noted : consideredLists noted = [{ column := "kind", values := ["x\ny"] }] := by
  simp [consideredLists, noted, isDeclaredColumn]

/-- A comment of two lines and a value of two lines are one line. -/
theorem comment_of_noted :
    ∃ result, forPython.assemble ["noted"] [noted] [] = .ok result ∧
      ∃ e ∈ result.entities, ∃ c ∈ e.columns,
        c.comment = some "as\nsold - Possible values: 'x\ny'" ∧
        ∀ context, "    # as sold - Possible values: 'x y'" ∈ linesOf (entityText context e) := by
  have hextract : ∀ typeNames, ∃ entity,
      (forPython.extract typeNames [noted] noted).2 = .ok entity := by
    intro typeNames
    rw [Assembler.extract, Assembler.tableEnums, enumTypes, considered_noted]
    exact ⟨_, rfl⟩
  obtain ⟨result, h, e, he, hkept, c, hc, hcatalog⟩ :=
    exists_comment_of_lone rfl (typeName_total rfl) (fun _ hkey => absurd hkey List.not_mem_nil)
      hextract
  have hcomment : c.comment = some "as\nsold - Possible values: 'x\ny'" := hcatalog.trans (by cbv)
  refine ⟨result, h, e, he, c, hc, hcomment, fun context => ?_⟩
  obtain ⟨table, htable, hall⟩ := comments_confined_iff h he context
  obtain rfl := Option.some.inj (hkept.symm.trans htable)
  obtain ⟨raw, hraw, -, hline⟩ := exists_of_mem_right hall hc
  obtain rfl := List.mem_singleton.mp hraw
  refine (hline _ hcomment (by decide)).read.mpr ⟨fun text htext => ?_, fun list hlist => ?_⟩
  · rw [← Option.some.inj htext]
    decide
  · have hdeclared : list = { column := "kind", values := ["x\ny"] } :=
      (Option.some.inj hlist).symm
    rw [hdeclared]
    decide

/-- A table with a comment that goes on behind a carriage return. -/
def returned : Table :=
  { name := "t"
    columns := [
      { name := "id", nativeType := "integer", comment := some "first\rimport os" }] }

/-- A comment with a carriage return is not a line of the module, and its end is a line of code. -/
theorem code_of_returned :
    ∃ result, forPython.assemble ["t"] [returned] [] = .ok result ∧
      ∃ e ∈ result.entities, ∃ c ∈ e.columns, c.comment = some "first\rimport os" ∧
        ¬ OneLine (blanked "first\rimport os") ∧
        ∀ context, "import os" ∈ linesOf (entityText context e) := by
  have hextract : ∀ typeNames, ∃ entity,
      (forPython.extract typeNames [returned] returned).2 = .ok entity := by
    intro typeNames
    have hunlisted : consideredLists returned = [] := by simp [consideredLists, returned]
    rw [Assembler.extract, Assembler.tableEnums, enumTypes, hunlisted]
    exact ⟨_, rfl⟩
  obtain ⟨result, h, e, he, -, c, hc, hcomment⟩ := exists_comment_of_lone rfl (typeName_total rfl)
    (fun _ hkey => absurd hkey List.not_mem_nil) hextract
  refine ⟨result, h, e, he, c, hc, hcomment, fun hone => ?_, fun context => ?_⟩
  · exact absurd (oneLine_blanked_iff.mp hone) (by decide)
  · have hline : commentLine "first\rimport os" ∈ entityLines context e :=
      commentLine_mem_entityLines hc hcomment (by decide)
    exact linesOf_subset_unlines hline (by decide)

end Sample

end Python
end Emit
end TableCast
