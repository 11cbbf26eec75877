import TableCast.Catalog.Reader
import TableCast.Proofs.Text.SpacedLists

/-!
# Lists in the types of columns

The type of an enum or of a set column shows its values as literals between parentheses, with commas
between them and maybe blanks behind the commas.  The list is cut out at the first and at the last
parenthesis.  Parentheses, commas, quotes and line ends inside the literals do no harm: the values
are read as they were declared, unless one of them is longer than a literal may be.

**Layouts.**  `ListedColumn` is a column with such a type.

**Results.**
* `argumentText?_parenthesised`: the text between the outer parentheses.
* `valueListOf?_row`: what is read for one column.
* `listed_values_iff`: the value lists of all columns of a table.
-/

namespace TableCast
namespace Catalog
namespace Mysql

open Schema Text Text.QuotedList Fallible

/-- A column of an enum type, or of a set type when it holds any combination of the values. -/
structure ListedColumn where
  name : String
  multiple : Bool
  literals : List Spaced
  literals_ne : literals ≠ []
  before_blank : ∀ s ∈ literals, ∀ c ∈ s.before, c = ' '
  after_nil : ∀ s ∈ literals, s.after = []

namespace ListedColumn

variable (c : ListedColumn)

/-- The name of the type. -/
def dataType : String := if c.multiple then "set" else "enum"

/-- The type with its values. -/
def columnType : String :=
  String.ofList (c.dataType.toList ++ '(' :: (spacedText c.literals ++ [')']))

/-- The catalog row of the column. -/
def row : ListRow :=
  { name := c.name, columnType := c.columnType, dataType := c.dataType }

/-- The values of the literals. -/
def values : List (List Char) := c.literals.map (·.value)

/-- The value list of the column. -/
def valueList : ValueList :=
  { column := c.name, values := c.values.map String.ofList, multiple := c.multiple }

/-- Blanks in front of the literals are the only gaps. -/
theorem plain_of_gaps : ∀ {literals : List Spaced}, (∀ s ∈ literals, ∀ d ∈ s.before, d = ' ') →
    (∀ s ∈ literals, s.after = []) → Plain literals
  | [], _, _ => trivial
  | [s], hbefore, hafter =>
      ⟨hbefore s (List.mem_singleton_self s), fun d hd => by
        rw [hafter s (List.mem_singleton_self s)] at hd
        exact absurd hd List.not_mem_nil⟩
  | s :: t :: rest, hbefore, hafter => by
      obtain ⟨hs, hrest⟩ := List.forall_mem_cons.mp hbefore
      obtain ⟨hs', hrest'⟩ := List.forall_mem_cons.mp hafter
      exact ⟨hs, hs', plain_of_gaps hrest hrest'⟩

theorem blank_literals : ∀ s ∈ c.literals, s.Blank := fun s hs =>
  { before := fun d hd => by
      rw [c.before_blank s hs d hd]
      rfl
    after := fun d hd => by
      rw [c.after_nil s hs] at hd
      exact absurd hd List.not_mem_nil }

/-- The list is read as the values of its literals when none of them is too long. -/
theorem read_literals_iff :
    QuotedList.read (spacedText c.literals) = .ok c.values ↔ Short c.values := by
  rw [values, read_spaced_iff c.literals_ne c.blank_literals]
  exact and_iff_right (plain_of_gaps c.before_blank c.after_nil)

end ListedColumn

section Reading

variable {word text : List Char} {c : ListedColumn}

/-- The text between the first opening and the last closing parenthesis, whatever stands in it. -/
theorem argumentText?_parenthesised (hword : ∀ d ∈ word, (d != '(') = true) (text : List Char) :
    argumentText? (word ++ '(' :: (text ++ [')'])) = some text := by
  have hfront : (word ++ '(' :: (text ++ [')'])).dropWhile (· != '(') = '(' :: (text ++ [')']) := by
    rw [List.dropWhile_append_of_pos hword, List.dropWhile_cons_of_neg (by decide)]
  have hback : ((text ++ [')']).reverse.dropWhile (· != ')')).tail.reverse = text := by
    rw [List.reverse_concat, List.dropWhile_cons_of_neg (by decide), List.tail_cons,
      List.reverse_reverse]
  have hcloses : (text ++ [')']).contains ')' = true := by simp
  rw [argumentText?, hfront]
  dsimp only
  rw [if_pos hcloses, hback]

/-- What is read for one column. -/
theorem valueListOf?_row (c : ListedColumn) :
    valueListOf? c.row = (QuotedList.read (spacedText c.literals)).map fun values =>
      some { column := c.name, values := values.map String.ofList, multiple := c.multiple } := by
  have hword : ∀ d ∈ c.dataType.toList, (d != '(') = true := by
    rw [ListedColumn.dataType]
    split_ifs
    · exact List.all_eq_true.mp (by decide)
    · exact List.all_eq_true.mp (by decide)
  have htext : argumentText? c.row.columnType.toList = some (spacedText c.literals) := by
    rw [ListedColumn.row, ListedColumn.columnType, String.toList_ofList]
    exact argumentText?_parenthesised hword _
  have hmultiple : (c.row.dataType == "set") = c.multiple := by
    show (c.dataType == "set") = c.multiple
    rw [ListedColumn.dataType]
    cases c.multiple <;> rfl
  rw [valueListOf?, htext]
  simp only [readQuotedList, String.toList_ofList, hmultiple]
  cases QuotedList.read (spacedText c.literals) <;> rfl

/-- One column is read with its values when none of them is too long. -/
theorem valueListOf?_eq_iff : valueListOf? c.row = .ok (some c.valueList) ↔ Short c.values := by
  rw [valueListOf?_row, map_eq_ok, ← c.read_literals_iff]
  constructor
  · rintro ⟨values, hread, heq⟩
    have hsame := (ValueList.mk.inj (Option.some.inj heq)).2.1
    rwa [List.map_injective_iff.mpr (fun _ _ => String.ofList_injective) hsame] at hread
  · exact fun hread => ⟨_, hread, rfl⟩

/-- A column with a list is never passed over. -/
theorem exists_of_valueListOf? {found : Option ValueList} (h : valueListOf? c.row = .ok found) :
    ∃ list, found = some list := by
  rw [valueListOf?_row] at h
  obtain ⟨values, -, rfl⟩ := map_eq_ok.mp h
  exact ⟨_, rfl⟩

/-- The value lists of a table are those of its columns, in the order of the columns. -/
theorem valueLists_eq_iff (columns : List ListedColumn) :
    valueLists (columns.map ListedColumn.row) = .ok (columns.map ListedColumn.valueList) ↔
      ∀ c ∈ columns, valueListOf? c.row = .ok (some c.valueList) := by
  induction columns with
  | nil => exact iff_of_true rfl fun _ hc => absurd hc List.not_mem_nil
  | cons c columns ih =>
      have hcons : valueLists ((c :: columns).map ListedColumn.row) =
          valueListOf? c.row >>= fun found =>
            valueLists (columns.map ListedColumn.row) >>= fun lists =>
              pure (found.toList ++ lists) :=
        rfl
      rw [hcons, bind_eq_ok, List.forall_mem_cons, ← ih, List.map_cons]
      constructor
      · rintro ⟨found, hfound, hrest⟩
        obtain ⟨lists, hlists, heq⟩ := bind_eq_ok.mp hrest
        obtain ⟨list, rfl⟩ := exists_of_valueListOf? hfound
        obtain ⟨rfl, rfl⟩ := List.cons.inj (pure_eq_ok.mp heq)
        exact ⟨hfound, hlists⟩
      · rintro ⟨hfound, hlists⟩
        exact ⟨_, hfound, bind_eq_ok.mpr ⟨_, hlists, rfl⟩⟩

end Reading

/-- **The values of enum and set columns are read as they were declared**, in order, whatever
characters they hold and however many blanks stand behind the commas, exactly when no value is too
long.  A column of a set type, and no other, holds any combination of its values. -/
theorem listed_values_iff (rows : List ColumnRow) (keys : List KeyRow)
    (columns : List ListedColumn) :
    Reader.valueListsOf (.mysql rows keys (columns.map ListedColumn.row)) =
        .ok (columns.map ListedColumn.valueList) ↔
      ∀ c ∈ columns, Short c.values := by
  rw [Reader.valueListsOf, mapError_eq_ok, valueLists_eq_iff]
  exact forall₂_congr fun c _ => valueListOf?_eq_iff

/-- An enum column whose values hold the signs of the list itself. -/
def signsColumn : ListedColumn where
  name := "sign"
  multiple := false
  literals :=
    [{ value := [] }, { before := [' ', ' '], value := "it's".toList },
      { value := "),('".toList }, { before := [' '], value := " a\nb,".toList }]
  literals_ne := List.cons_ne_nil _ _
  before_blank := by simp
  after_nil := by simp

/-- A set column with one value. -/
def flagColumn : ListedColumn where
  name := "flag"
  multiple := true
  literals := [{ value := "'".toList }]
  literals_ne := List.cons_ne_nil _ _
  before_blank := by simp
  after_nil := by simp

/-- Empty values, quotes, commas, parentheses and line ends in the values of two columns. -/
theorem listed_values_of_signs :
    signsColumn.columnType = "enum('',  'it''s','),(''', ' a\nb,')" ∧
    flagColumn.columnType = "set('''')" ∧
    Reader.valueListsOf (.mysql [] [] [signsColumn.row, flagColumn.row]) =
      .ok [{ column := "sign", values := ["", "it's", "),('", " a\nb,"] },
        { column := "flag", values := ["'"], multiple := true }] := by
  refine ⟨by decide, by decide, (listed_values_iff [] [] [signsColumn, flagColumn]).mpr ?_⟩
  have hshort : ∀ c ∈ [signsColumn, flagColumn],
      c.values.all (·.length ≤ maxLiteralLength) = true :=
    List.forall_mem_cons.mpr ⟨by decide, List.forall_mem_singleton.mpr (by decide)⟩
  exact fun c hc v hv => of_decide_eq_true (List.all_eq_true.mp (hshort c hc) v hv)

end Mysql
end Catalog
end TableCast
