import TableCast.Catalog.Reader
import TableCast.Proofs.Catalog.CheckHeads
import TableCast.Proofs.Text.SpacedLists

/-!
# Checks that a column is in a list

The value lists of a declaration stand in its checks that a column is in a list of literals.  Of a
declaration with one such check exactly one list is read, for the column of the check.  It holds the
values of the literals where only blanks proper stand in front of each literal and nothing stands
behind it, line ends behind the last one excepted: the other gaps that a declaration may have become
parts of the values, or make the list unreadable.

**Layouts.**  `ListCheck` is a check with all gaps that it may have, `Declaration` a text with one
such check.

**Results.**
* `checkAt?_text`: a check is read whole, with the text of its list.
* `checksFrom_declaration`: and no other check is read in a declaration.
* `declared_list_iff`: the value lists of a declaration.
* `declared_list_of_blankBehind`: a blank behind a literal that becomes a part of its value.
-/

namespace TableCast
namespace Catalog
namespace Sqlite

open Text Text.QuotedList Fallible

/-- A check that a column is in a list of literals. -/
structure ListCheck where
  head : ListHead
  literals : List Spaced
  behindList : List Char := []
  literals_ne : literals ≠ []
  literals_blank : ∀ s ∈ literals, s.Blank
  behindList_blank : ∀ c ∈ behindList, isBlank c = true

/-- The text of a check, with what stands behind it. -/
def ListCheck.text (check : ListCheck) (after : List Char) : List Char :=
  check.head.text (spacedText check.literals ++ ')' :: (check.behindList ++ ')' :: after))

/-- The values of the literals. -/
def ListCheck.values (check : ListCheck) : List (List Char) :=
  check.literals.map (·.value)

/-- A declaration with one check on a list. -/
structure Declaration where
  before : List Char
  check : ListCheck
  after : List Char
  before_free : ¬ HasListHead before
  after_free : ¬ HasListHead after

/-- The text of a declaration. -/
def Declaration.text (d : Declaration) : String :=
  String.ofList (d.before ++ d.check.text d.after)

section ListTexts

variable {cs gap seen v : List Char} {c : Char} {q : Bool} {s : Spaced} {spaced : List Spaced}

theorem listText?_quote : listText? q seen ('\'' :: cs) = listText? (!q) ('\'' :: seen) cs := by
  rw [listText?, if_pos (beq_self_eq_true _)]

/-- Neither a quote nor, outside of quotes, a closing parenthesis. -/
theorem listText?_plain (hquote : c ≠ '\'') (hparenthesis : c = ')' → q = true) :
    listText? q seen (c :: cs) = listText? q (c :: seen) cs := by
  rw [listText?, if_neg (by rwa [beq_iff_eq]), if_neg]
  rw [Bool.and_eq_true, beq_iff_eq, Bool.not_eq_true', not_and, Bool.not_eq_false]
  exact hparenthesis

theorem listText?_blanks (hgap : ∀ c ∈ gap, isBlank c = true) :
    listText? false seen (gap ++ cs) = listText? false (gap.reverse ++ seen) cs := by
  induction gap generalizing seen with
  | nil => rfl
  | cons c gap ih =>
      obtain ⟨hc, hrest⟩ := List.forall_mem_cons.mp hgap
      have hquote : c ≠ '\'' := by
        rintro rfl
        exact absurd hc (by decide)
      have hparenthesis : c ≠ ')' := by
        rintro rfl
        exact absurd hc (by decide)
      rw [List.cons_append, listText?_plain hquote (absurd · hparenthesis), ih hrest,
        List.reverse_cons, List.append_assoc]
      rfl

/-- The two quotes of a doubled one close a literal and open it again. -/
theorem listText?_doubled :
    listText? true seen (doubleQuotes v ++ cs) =
      listText? true ((doubleQuotes v).reverse ++ seen) cs := by
  induction v generalizing seen with
  | nil => rfl
  | cons c v ih =>
      by_cases hc : c = '\''
      · obtain rfl := hc
        rw [doubleQuotes_quote, List.cons_append, List.cons_append, listText?_quote,
          listText?_quote, Bool.not_not, ih, List.reverse_cons, List.reverse_cons,
          List.append_assoc, List.append_assoc]
        rfl
      · rw [doubleQuotes_of_ne hc, List.cons_append, listText?_plain hc fun _ => rfl, ih,
          List.reverse_cons, List.append_assoc]
        rfl

theorem listText?_literal (hs : s.Blank) :
    listText? false seen (s.text ++ cs) = listText? false (s.text.reverse ++ seen) cs := by
  have htext : s.text ++ cs =
      s.before ++ '\'' :: (doubleQuotes s.value ++ '\'' :: (s.after ++ cs)) := by
    simp only [Spaced.text, List.append_assoc, List.cons_append]
  rw [htext, listText?_blanks hs.before, listText?_quote, Bool.not_false, listText?_doubled,
    listText?_quote, Bool.not_true, listText?_blanks hs.after]
  simp only [Spaced.text, List.reverse_append, List.reverse_cons, List.append_assoc,
    List.cons_append, List.nil_append]

/-- The text of a list is read through. -/
theorem listText?_spacedText (hblank : ∀ s ∈ spaced, s.Blank) :
    listText? false seen (spacedText spaced ++ cs) =
      listText? false ((spacedText spaced).reverse ++ seen) cs := by
  induction spaced generalizing seen with
  | nil => rfl
  | cons s rest ih =>
      obtain ⟨hs, hrest⟩ := List.forall_mem_cons.mp hblank
      cases rest with
      | nil => exact listText?_literal hs
      | cons t rest =>
          rw [spacedText, List.append_assoc, List.cons_append, listText?_literal hs,
            listText?_plain (by decide) (fun h => absurd h (by decide)), ih hrest]
          simp only [List.reverse_append, List.reverse_cons, List.append_assoc, List.cons_append,
            List.nil_append]

end ListTexts

section Checks

variable {cs before after : List Char}

/-- A check is its beginning, the list, and two parentheses. -/
theorem checkAt?_eq (cs : List Char) :
    checkAt? cs = (listHead? cs).bind fun (column, cs) => do
      let (values, cs) ← listText? false [] cs
      let rest ← afterChar? ')' cs
      return (column, values, rest) := by
  simp only [checkAt?, listHead?, Option.bind_eq_bind, Option.bind_assoc, Option.pure_def,
    Option.bind_some]

/-- **A check is read**, with its column and the text of its list. -/
theorem checkAt?_text (check : ListCheck) (after : List Char) :
    checkAt? (check.text after) =
      some (check.head.column, spacedText check.literals, after) := by
  have hlist : listText? false []
      (spacedText check.literals ++ ')' :: (check.behindList ++ ')' :: after)) =
        some (spacedText check.literals, check.behindList ++ ')' :: after) := by
    rw [listText?_spacedText check.literals_blank, List.append_nil, listText?]
    simp
  have hbehind : afterChar? ')' (check.behindList ++ ')' :: after) = some after :=
    (afterChar?_eq_some_iff (by decide)).mpr ⟨_, check.behindList_blank, rfl⟩
  rw [checkAt?_eq, ListCheck.text, listHead?_text, Option.bind_some]
  simp only [hlist, hbehind, Option.bind_eq_bind, Option.bind_some, Option.pure_def]

theorem checksFrom_of_none {c : Char} (h : listHead? (c :: cs) = none) :
    checksFrom 0 (c :: cs) = checksFrom 0 cs := by
  rw [checksFrom, checkAt?_eq, h]
  rfl

theorem checksFrom_skip (n : Nat) (cs : List Char) :
    checksFrom n cs = checksFrom 0 (cs.drop n) := by
  induction n generalizing cs with
  | zero => rfl
  | succ n ih =>
      cases cs with
      | nil => rfl
      | cons c cs => exact ih cs

/-- Where no check on a list begins, none is read. -/
theorem checksFrom_of_free (h : ¬ HasListHead cs) : checksFrom 0 cs = [] := by
  induction cs with
  | nil => rfl
  | cons c cs ih =>
      rw [checksFrom_of_none (listHead?_eq_none h), ih (not_hasListHead_of_cons h)]

/-- What stands in front of a check is passed over. -/
theorem checksFrom_before (head : ListHead) (rest : List Char) (h : ¬ HasListHead before) :
    checksFrom 0 (before ++ head.text rest) = checksFrom 0 (head.text rest) := by
  induction before with
  | nil => rfl
  | cons c before ih =>
      have hnone : listHead? (c :: before ++ head.text rest) = none := by
        cases hread : listHead? (c :: before ++ head.text rest) with
        | none => rfl
        | some read =>
            obtain ⟨tail, htail⟩ := exists_listHead?_of_append (List.cons_ne_nil c before) hread
            rw [listHead?_eq_none h] at htail
            cases htail
      exact (checksFrom_of_none hnone).trans (ih (not_hasListHead_of_cons h))

/-- A check is read once, and the reading goes on behind it. -/
theorem checksFrom_text (check : ListCheck) (after : List Char) :
    checksFrom 0 (check.text after) =
      (check.head.column, spacedText check.literals) :: checksFrom 0 after := by
  have htext : check.text after = check.text [] ++ after := by
    simp only [ListCheck.text, ListHead.text, List.append_assoc, List.cons_append, List.nil_append]
  obtain ⟨c, cs, hcs⟩ : ∃ c cs, check.text [] = c :: cs := by
    obtain ⟨c, _, _, _, _, h, -⟩ := check.head.exists_text
      (spacedText check.literals ++ ')' :: (check.behindList ++ [')']))
    exact ⟨c, _, h⟩
  have hread := checkAt?_text check after
  rw [htext, hcs, List.cons_append] at hread ⊢
  rw [checksFrom, hread]
  show _ :: checksFrom ((cs ++ after).length - after.length) (cs ++ after) = _
  rw [checksFrom_skip, List.length_append, Nat.add_sub_cancel, List.drop_left]

/-- **One check is read in a declaration.** -/
theorem checksFrom_declaration (d : Declaration) :
    checksFrom 0 (d.before ++ d.check.text d.after) =
      [(d.check.head.column, spacedText d.check.literals)] := by
  have hbefore := checksFrom_before d.check.head
    (spacedText d.check.literals ++ ')' :: (d.check.behindList ++ ')' :: d.after)) d.before_free
  rw [ListCheck.text, hbefore]
  exact (checksFrom_text d.check d.after).trans (by rw [checksFrom_of_free d.after_free])

/-- The value lists of a declaration are what the reader of lists makes of the one list in it. -/
theorem valueLists_declaration (d : Declaration) :
    valueLists d.text =
      (QuotedList.read (spacedText d.check.literals)).map fun values =>
        [{ column := String.ofList d.check.head.column, values := values.map String.ofList }] := by
  rw [valueLists, Declaration.text, String.toList_ofList, checksFrom_declaration, List.mapM_cons,
    List.mapM_nil]
  simp only [readQuotedList, String.toList_ofList]
  cases QuotedList.read (spacedText d.check.literals) <;> rfl

/-- **The value lists of a declaration** with one check on a list: if any are read, it is one list,
for the column of the check; and it holds the values of the literals when only blanks proper stand
in front of each literal, nothing stands behind it but line ends behind the last one, and no literal
is too long. -/
theorem declared_list_iff (d : Declaration) (columns : List ColumnRow)
    (keys : List ForeignKeyRow) :
    (∀ lists, Reader.valueListsOf (.sqlite columns keys (some d.text)) = .ok lists →
      ∃ values, lists = [{ column := String.ofList d.check.head.column, values := values }]) ∧
    (Reader.valueListsOf (.sqlite columns keys (some d.text)) =
        .ok [{ column := String.ofList d.check.head.column
               values := d.check.values.map String.ofList }] ↔
      Plain d.check.literals ∧ Short d.check.values) := by
  have hread : ∀ lists, Reader.valueListsOf (.sqlite columns keys (some d.text)) = .ok lists ↔
      ∃ values, QuotedList.read (spacedText d.check.literals) = .ok values ∧
        [{ column := String.ofList d.check.head.column, values := values.map String.ofList }] =
          lists := by
    intro lists
    show (valueLists d.text).mapError Reader.listProblem = .ok lists ↔ _
    rw [mapError_eq_ok, valueLists_declaration, map_eq_ok]
  constructor
  · intro lists h
    obtain ⟨values, -, rfl⟩ := (hread lists).mp h
    exact ⟨_, rfl⟩
  · have hlayout := read_spaced_iff d.check.literals_ne d.check.literals_blank
    rw [hread, ListCheck.values, ← hlayout]
    constructor
    · rintro ⟨values, hvalues, heq⟩
      have hsame := (Schema.ValueList.mk.inj (List.cons.inj heq).1).2.1
      rw [hvalues, List.map_injective_iff.mpr (fun _ _ => String.ofList_injective) hsame]
    · exact fun h => ⟨_, h, rfl⟩

end Checks

section Cases

theorem forall_of_all {p : Char → Bool} {cs : List Char} (h : cs.all p = true) :
    ∀ c ∈ cs, p c = true :=
  List.all_eq_true.mp h

/-- The declaration of a table `t` with a check on its column `s`. -/
def oneColumn (literals : List Spaced) (literals_ne : literals ≠ [])
    (literals_blank : ∀ s ∈ literals, s.Blank) : Declaration where
  before := "CREATE TABLE t (s TEXT ".toList
  check :=
    { head :=
        { check := "CHECK".toList
          beforeParenthesis := [' ']
          column := ['s']
          behindColumn := [' ']
          within := "IN".toList
          beforeList := [' ']
          check_eq := by decide
          beforeParenthesis_blank := forall_of_all rfl
          beforeColumn_blank := forall_of_all rfl
          opening_eq := by simp
          column_ne := List.cons_ne_nil _ _
          column_word := forall_of_all (by decide)
          closing_eq := by simp
          behindColumn_ne := List.cons_ne_nil _ _
          behindColumn_blank := forall_of_all rfl
          within_eq := by decide
          beforeList_blank := forall_of_all rfl }
      literals := literals
      literals_ne := literals_ne
      literals_blank := literals_blank
      behindList_blank := forall_of_all rfl }
  after := [')']
  before_free := by decide +kernel
  after_free := by decide +kernel

/-- Two literals with blanks in front of the second one and a line end behind it. -/
def blanksInFront : Declaration :=
  oneColumn
    [{ value := "to do".toList },
      { before := [' ', ' '], value := "it's (done)".toList, after := ['\n'] }]
    (List.cons_ne_nil _ _)
    (List.forall_mem_cons.mpr ⟨⟨nofun, nofun⟩,
      List.forall_mem_singleton.mpr ⟨forall_of_all rfl, forall_of_all rfl⟩⟩)

theorem declared_list_of_blanksInFront :
    blanksInFront.text = "CREATE TABLE t (s TEXT CHECK (s IN ('to do',  'it''s (done)'\n)))" ∧
    Reader.valueListsOf (.sqlite [] [] (some blanksInFront.text)) =
      .ok [{ column := "s", values := ["to do", "it's (done)"] }] :=
  ⟨by decide, (declared_list_iff blanksInFront [] []).2.mpr
    ⟨⟨nofun, rfl, by simp, forall_of_all rfl⟩,
      List.forall_mem_cons.mpr ⟨by decide, List.forall_mem_singleton.mpr (by decide)⟩⟩⟩

/-- Two literals with a blank behind the first one. -/
def blankBehind : Declaration :=
  oneColumn [{ value := ['a'], after := [' '] }, { before := [' '], value := ['b'] }]
    (List.cons_ne_nil _ _)
    (List.forall_mem_cons.mpr ⟨⟨nofun, forall_of_all rfl⟩,
      List.forall_mem_singleton.mpr ⟨forall_of_all rfl, nofun⟩⟩)

/-- The blank in front of the comma becomes a part of the first value. -/
theorem declared_list_of_blankBehind :
    blankBehind.text = "CREATE TABLE t (s TEXT CHECK (s IN ('a' , 'b')))" ∧
    blankBehind.check.values = [['a'], ['b']] ∧
    Reader.valueListsOf (.sqlite [] [] (some blankBehind.text)) =
      .ok [{ column := "s", values := ["a ", "b"] }] := by
  have htext : blankBehind.text = "CREATE TABLE t (s TEXT CHECK (s IN ('a' , 'b')))" := by decide
  refine ⟨htext, rfl, ?_⟩
  rw [htext]
  cbv

end Cases

end Sqlite
end Catalog
end TableCast
