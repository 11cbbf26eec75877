import TableCast.Catalog.Reader
import TableCast.Proofs.Text.QuotedLists

/-!
# Which tables can be read

What a catalog says about a table is read question by question.  A query that fails excludes the
table, and so does a table without columns.  The texts in the answers are read as well: the
arguments of types as integers, closed value lists as lists of literals.  Where such a text cannot
be read, the failure is of another nature.

**Texts.**  `ShortArguments` are the types whose arguments can be read, `IsList` are the texts that
are lists.  `declaredTypes` and `listTexts` are those that the rows of a table hold.

**Results.**
* `contained_bind_iff`, `contained_ask_iff`: one question after the other, and one question.
* `contained_columns_iff`, `contained_valueLists_iff`: the questions whose answers are read as
  texts.
* `contained_table_iff`: a table is read or excluded exactly when the texts that are reached can be
  read.
* `legible_of_plain`: texts that are short and on one line can be read.
-/

namespace TableCast
namespace Catalog

open Schema Text Number Fallible

/-- A question is answered, or its fault excludes the table. -/
inductive Contained {α : Type} (answer : Except Problem α) : Prop
  | read (a : α) (h : answer = .ok a)
  | excluded (fault : Fault) (h : answer = .error (.fault fault)) (hkind : fault.kind = .schemaRead)

section Contained

variable {α β : Type} {x : Except Problem α} {f : α → Except Problem β}

theorem contained_ok (a : α) : Contained (.ok a : Except Problem α) := .read a rfl

theorem kind_note (fault : Fault) (key value : String) :
    (fault.note key value).kind = fault.kind := by
  rw [Fault.note]
  split_ifs <;> rfl

theorem contained_fault {fault : Fault} (hkind : fault.kind = .schemaRead) :
    Contained (.error (.fault fault) : Except Problem α) :=
  .excluded fault rfl hkind

theorem contained_readFault (what table message : String) :
    Contained (.error (.fault (readFault what table message)) : Except Problem α) :=
  contained_fault (kind_note _ _ _)

theorem contained_noColumnsFault (table : String) :
    Contained (.error (.fault (noColumnsFault table)) : Except Problem α) :=
  contained_fault (kind_note _ _ _)

/-- Of two questions the second one is asked when the first one is answered. -/
theorem contained_bind_iff :
    Contained (x >>= f) ↔ Contained x ∧ ∀ a, x = .ok a → Contained (f a) := by
  cases x with
  | error problem =>
      have hbind : ((.error problem : Except Problem α) >>= f) = .error problem := rfl
      rw [hbind]
      constructor
      · rintro (⟨_, h⟩ | ⟨fault, h, hkind⟩)
        · cases h
        · exact ⟨.excluded fault (by rw [Except.error.inj h]) hkind, nofun⟩
      · rintro ⟨⟨_, h⟩ | ⟨fault, h, hkind⟩, -⟩
        · cases h
        · exact .excluded fault (by rw [Except.error.inj h]) hkind
  | ok a =>
      refine ⟨fun h => ⟨contained_ok a, ?_⟩, fun h => h.2 a rfl⟩
      rintro a' heq
      obtain rfl := Except.ok.inj heq
      exact h

/-- A text that cannot be read excludes no table. -/
theorem contained_mapError_iff {ε : Type} {y : Except ε α} {g : ε → Problem}
    (hg : ∀ e fault, g e ≠ .fault fault) : Contained (y.mapError g) ↔ ∃ a, y = .ok a := by
  cases y with
  | ok a => exact iff_of_true (contained_ok a) ⟨a, rfl⟩
  | error e =>
      refine iff_of_false ?_ nofun
      rintro (⟨_, h⟩ | ⟨fault, h, -⟩)
      · cases h
      · exact hg e fault (Except.error.inj h)

end Contained

section Texts

/-- The arguments of a type have no more digits than integers may have. -/
def ShortArguments (native : String) : Prop :=
  ∀ first second, argumentDigits? native.toList = some (first, second) →
    first.length ≤ maxDigits ∧ ∀ digits ∈ second, digits.length ≤ maxDigits

/-- The types that are read as texts. -/
def Rows.declaredTypes : Rows → List String
  | .sqlite columns _ _ => columns.map fun row => row.declaredType.getD ""
  | .postgresql _ _ _ => []
  | .mysql _ _ _ => []

/-- The texts that are read as lists of literals. -/
def Rows.listTexts : Rows → List (List Char)
  | .sqlite _ _ declaration => (Sqlite.checksFrom 0 (declaration.getD "").toList).map (·.2)
  | .postgresql _ _ _ => []
  | .mysql _ _ lists => lists.filterMap fun row => Mysql.argumentText? row.columnType.toList

theorem numberProblem_ne (e : IntegerError) (fault : Fault) :
    Reader.numberProblem e ≠ .fault fault := by
  cases e <;> rintro ⟨⟩

theorem listProblem_ne (e : ListError) (fault : Fault) : Reader.listProblem e ≠ .fault fault := by
  cases e <;> rintro ⟨⟩

variable {native : String} {rows : Rows}

theorem signedInteger_ok_iff {negative : Bool} {digits : List Nat} :
    (∃ n, signedInteger negative digits = .ok n) ↔ digits.length ≤ maxDigits := by
  rw [signedInteger]
  by_cases h : digits.length > maxDigits
  · rw [if_pos h]
    exact iff_of_false nofun (Nat.not_le.mpr h)
  · rw [if_neg h]
    exact iff_of_true ⟨_, rfl⟩ (Nat.not_lt.mp h)

theorem secondInteger_ok_iff {second : Option (List Nat)} :
    (∃ n, second.mapM (signedInteger false) = .ok n) ↔
      ∀ digits ∈ second, digits.length ≤ maxDigits := by
  cases second with
  | none => exact iff_of_true ⟨none, rfl⟩ nofun
  | some digits =>
      have hsome : (∃ n, (some digits).mapM (signedInteger false) = .ok n) ↔
          ∃ n, signedInteger false digits = .ok n := by
        show (∃ n, (some <$> signedInteger false digits) = .ok n) ↔ _
        cases signedInteger false digits with
        | error e => exact iff_of_false nofun nofun
        | ok n => exact iff_of_true ⟨some n, rfl⟩ ⟨n, rfl⟩
      rw [hsome, signedInteger_ok_iff]
      simp

theorem typeArguments_ok_of_digits {first : List Nat} {second : Option (List Nat)}
    (hdigits : argumentDigits? native.toList = some (first, second)) :
    (∃ a, typeArguments native = .ok a) ↔
      (∃ n, signedInteger false first = .ok n) ∧
        ∃ m, second.mapM (signedInteger false) = .ok m := by
  rw [typeArguments, hdigits]
  dsimp only
  constructor
  · rintro ⟨a, ha⟩
    obtain ⟨n, hn, ha⟩ := bind_eq_ok.mp ha
    obtain ⟨m, hm, -⟩ := bind_eq_ok.mp ha
    exact ⟨⟨n, hn⟩, m, hm⟩
  · rintro ⟨⟨n, hn⟩, m, hm⟩
    rw [hn, hm]
    by_cases hnumeric : numericTypeParts.any (contains (lower native)) = true
    · exact ⟨_, if_pos hnumeric⟩
    · exact ⟨_, if_neg hnumeric⟩

/-- The arguments of a type are read exactly when they are short. -/
theorem typeArguments_ok_iff : (∃ a, typeArguments native = .ok a) ↔ ShortArguments native := by
  cases hdigits : argumentDigits? native.toList with
  | none =>
      rw [typeArguments, ShortArguments, hdigits]
      exact iff_of_true ⟨_, rfl⟩ nofun
  | some digits =>
      obtain ⟨first, second⟩ := digits
      rw [typeArguments_ok_of_digits hdigits, signedInteger_ok_iff, secondInteger_ok_iff,
        ShortArguments, hdigits]
      constructor
      · rintro h first' second' heq
        obtain ⟨rfl, rfl⟩ := Prod.mk.inj (Option.some.inj heq)
        exact h
      · exact fun h => h first second rfl

section Lengths

variable {cs : List Char} {first : List Nat} {second : Option (List Nat)}

theorem length_spanDigits (cs : List Char) :
    (spanDigits cs).1.length + (spanDigits cs).2.length = cs.length := by
  induction cs with
  | nil => rfl
  | cons c cs ih =>
      rw [spanDigits]
      cases decimalValue? c with
      | none => exact Nat.zero_add _
      | some d =>
          show (spanDigits cs).1.length + 1 + (spanDigits cs).2.length = cs.length + 1
          omega

theorem length_blankedDigits (cs : List Char) :
    (blankedDigits cs).1.length + (blankedDigits cs).2.length ≤ cs.length := by
  have hspan := length_spanDigits (trimLeftBy isBlank cs)
  have hleft : (trimLeftBy isBlank cs).length ≤ cs.length := List.length_dropWhile_le _ _
  have hrest : (trimLeftBy isBlank (spanDigits (trimLeftBy isBlank cs)).2).length ≤
    (spanDigits (trimLeftBy isBlank cs)).2.length := List.length_dropWhile_le _ _
  show (spanDigits (trimLeftBy isBlank cs)).1.length +
    (trimLeftBy isBlank (spanDigits (trimLeftBy isBlank cs)).2).length ≤ _
  omega

theorem length_closedDigits (h : closedDigits? cs = some (first, second)) :
    first.length ≤ cs.length ∧ ∀ digits ∈ second, digits.length ≤ cs.length := by
  have hfirst := length_blankedDigits cs
  rw [closedDigits?] at h
  split at h
  · cases h
  · rename_i digits tail _ hcs
    obtain ⟨rfl, rfl⟩ := Prod.mk.inj (Option.some.inj h)
    rw [hcs] at hfirst
    exact ⟨Nat.le_of_add_right_le hfirst, nofun⟩
  · rename_i digits rest _ hcs
    rw [hcs, List.length_cons] at hfirst
    have hsecond := length_blankedDigits rest
    split at h
    · cases h
    · rename_i digits' tail _ hrest
      obtain ⟨rfl, rfl⟩ := Prod.mk.inj (Option.some.inj h)
      rw [hrest] at hsecond
      dsimp only at hfirst hsecond
      refine ⟨by omega, fun ds hds => ?_⟩
      obtain rfl := Option.some.inj hds
      omega
    · cases h
  · cases h

/-- The digits of the arguments stand in the text of the type. -/
theorem length_argumentDigits (h : argumentDigits? cs = some (first, second)) :
    first.length ≤ cs.length ∧ ∀ digits ∈ second, digits.length ≤ cs.length := by
  induction cs with
  | nil => cases h
  | cons c cs ih =>
      have hlater : first.length ≤ cs.length ∧ (∀ digits ∈ second, digits.length ≤ cs.length) →
          first.length ≤ (c :: cs).length ∧ ∀ digits ∈ second, digits.length ≤ (c :: cs).length :=
        fun hcs => ⟨Nat.le_succ_of_le hcs.1, fun ds hds => Nat.le_succ_of_le (hcs.2 ds hds)⟩
      rw [argumentDigits?] at h
      split_ifs at h
      · split at h
        · rename_i hclosed
          obtain rfl := Option.some.inj h
          exact hlater (length_closedDigits hclosed)
        · exact hlater (ih h)
      · exact hlater (ih h)

theorem shortArguments_of_length (h : native.length ≤ maxDigits) : ShortArguments native := by
  intro first second hdigits
  obtain ⟨hfirst, hsecond⟩ := length_argumentDigits hdigits
  rw [String.length_toList] at hfirst hsecond
  exact ⟨hfirst.trans h, fun digits hmem => (hsecond digits hmem).trans h⟩

end Lengths

theorem columnOf_ok_iff {loneKey : Bool} {row : Sqlite.ColumnRow} :
    (∃ column, Sqlite.columnOf loneKey row = .ok column) ↔
      ShortArguments (row.declaredType.getD "") := by
  rw [← typeArguments_ok_iff, Sqlite.columnOf, exists_bind_iff]
  exact exists_congr fun a => and_iff_left ⟨_, rfl⟩

/-- The columns that rows state are read exactly when the arguments of their types are. -/
theorem contained_columnsOf_iff :
    Contained (Reader.columnsOf rows) ↔ ∀ native ∈ rows.declaredTypes, ShortArguments native := by
  cases rows with
  | sqlite columns keys declaration =>
      rw [Reader.columnsOf, contained_mapError_iff numberProblem_ne, Sqlite.columns,
        exists_mapM_iff, Rows.declaredTypes, List.forall_mem_map]
      exact forall₂_congr fun row _ => columnOf_ok_iff
  | postgresql columns keys labels =>
      exact iff_of_true (contained_ok _) fun _ h => absurd h List.not_mem_nil
  | mysql columns keys lists =>
      exact iff_of_true (contained_ok _) fun _ h => absurd h List.not_mem_nil

/-- The value lists of a declaration are read exactly when the text of each check is a list. -/
theorem sqlite_valueLists_ok_iff {declaration : String} :
    (∃ lists, Sqlite.valueLists declaration = .ok lists) ↔
      ∀ check ∈ Sqlite.checksFrom 0 declaration.toList, QuotedList.IsList check.2 := by
  rw [Sqlite.valueLists, exists_mapM_iff]
  refine forall₂_congr fun check _ => ?_
  rw [← QuotedList.exists_readQuotedList_iff, exists_bind_iff]
  exact exists_congr fun values => and_iff_left ⟨_, rfl⟩

theorem valueListOf?_ok_iff {row : Mysql.ListRow} :
    (∃ list, Mysql.valueListOf? row = .ok list) ↔
      ∀ text ∈ Mysql.argumentText? row.columnType.toList, QuotedList.IsList text := by
  rw [Mysql.valueListOf?]
  cases Mysql.argumentText? row.columnType.toList with
  | none => exact iff_of_true ⟨none, rfl⟩ nofun
  | some text =>
      dsimp only
      simp only [Option.mem_some_iff, forall_eq']
      rw [exists_bind_iff, ← QuotedList.exists_readQuotedList_iff]
      exact exists_congr fun values => and_iff_left ⟨_, rfl⟩

/-- The value lists of the columns of a table are read exactly when each of them is. -/
theorem mysql_valueLists_ok_iff {lists : List Mysql.ListRow} :
    (∃ all, Mysql.valueLists lists = .ok all) ↔
      ∀ row ∈ lists, ∃ list, Mysql.valueListOf? row = .ok list := by
  induction lists with
  | nil => exact iff_of_true ⟨[], rfl⟩ nofun
  | cons row lists ih =>
      have hcons : (∃ all, Mysql.valueLists (row :: lists) = .ok all) ↔
          ∃ list, Mysql.valueListOf? row = .ok list ∧ ∃ all, Mysql.valueLists lists = .ok all := by
        show (∃ all, (Mysql.valueListOf? row >>= fun list => Mysql.valueLists lists >>= _) =
          .ok all) ↔ _
        rw [exists_bind_iff]
        refine exists_congr fun list => and_congr_right fun _ => ?_
        rw [exists_bind_iff]
        exact exists_congr fun all => and_iff_left ⟨_, rfl⟩
      rw [hcons, List.forall_mem_cons, ← ih, exists_and_right]

/-- The value lists that rows state are read exactly when their texts are lists. -/
theorem contained_valueListsOf_iff :
    Contained (Reader.valueListsOf rows) ↔ ∀ text ∈ rows.listTexts, QuotedList.IsList text := by
  cases rows with
  | sqlite columns keys declaration =>
      rw [Reader.valueListsOf, contained_mapError_iff listProblem_ne, sqlite_valueLists_ok_iff,
        Rows.listTexts, List.forall_mem_map]
  | postgresql columns keys labels =>
      exact iff_of_true (contained_ok _) fun _ h => absurd h List.not_mem_nil
  | mysql columns keys lists =>
      rw [Reader.valueListsOf, contained_mapError_iff listProblem_ne, mysql_valueLists_ok_iff,
        Rows.listTexts]
      simp only [valueListOf?_ok_iff, List.mem_filterMap]
      constructor
      · rintro h text ⟨row, hrow, htext⟩
        exact h row hrow text htext
      · exact fun h row hrow text htext => h text ⟨row, hrow, htext⟩

end Texts

section Questions

/-- A reader that holds a connection to an engine. -/
structure Reader.Open (r : Reader) (dialect : Dialect) : Prop where
  connected : r.connected = true
  engine : r.dialect = some dialect

/-- The value lists of a table are read last: everything before them is answered. -/
structure Reader.Reached (r : Reader) (db : Recording) (name : String) : Prop where
  columns : ∃ columns, r.columns db name = .ok columns
  foreignKeys : ∃ keys, r.foreignKeys db name = .ok keys
  indexes : ∃ indexes, r.indexes db name = .ok indexes

variable {r : Reader} {db : Recording} {dialect : Dialect} {name what query : String}

/-- A connection that is made is held, to the engine of the database. -/
theorem Reader.open_of_opened {r₀ : Reader} (h : r₀.opened db = .ok r) :
    ∃ dialect, db.dialect? = some dialect ∧ r.Open dialect := by
  rw [Reader.opened] at h
  split_ifs at h
  cases hdialect : db.dialect? with
  | none =>
      rw [hdialect] at h
      cases h
  | some dialect =>
      rw [hdialect] at h
      cases hfailure : db.connectFailure with
      | none =>
          rw [hfailure] at h
          obtain rfl := Except.ok.inj h
          exact ⟨dialect, rfl, rfl, rfl⟩
      | some failure =>
          rw [hfailure] at h
          cases failure <;> cases h

variable {α : Type} {topic : Topic} {answer : RecordedTable → Except Problem α}

/-- A query that fails excludes the table. -/
theorem contained_ask_iff (h : r.Open dialect) :
    Contained (r.ask db name what topic answer) ↔
      ((db.table dialect name).failure? topic = none →
        Contained (answer (db.table dialect name))) := by
  rw [Reader.ask, h.connected, h.engine]
  dsimp only
  cases (db.table dialect name).failure? topic with
  | none => exact ⟨fun hanswer _ => hanswer, fun hanswer => hanswer rfl⟩
  | some message => exact iff_of_true (contained_readFault _ _ _) nofun

theorem contained_ask_of_answered (h : r.Open dialect)
    (hanswer : Contained (answer (db.table dialect name))) :
    Contained (r.ask db name what topic answer) :=
  (contained_ask_iff h).mpr fun _ => hanswer

theorem askCatalog_of_open (h : r.Open dialect) (topic : Dialect → Topic) :
    r.askCatalog db name what query topic answer = r.ask db name what (topic dialect) answer := by
  rw [Reader.askCatalog, h.engine]

/-- The columns of a table are read, unless a type among them cannot be. -/
theorem contained_columns_iff (h : r.Open dialect) :
    Contained (r.columns db name) ↔
      ((db.table dialect name).failure? .columns = none →
        ∀ native ∈ (db.table dialect name).rows.declaredTypes, ShortArguments native) := by
  have hnone : ∀ columns : List Column, Contained
      (if columns.isEmpty then .error (.fault (noColumnsFault name)) else pure columns :
        Except Problem (List Column)) := fun columns => by
    split_ifs
    · exact contained_noColumnsFault name
    · exact contained_ok columns
  rw [Reader.columns, contained_bind_iff, and_iff_left fun columns _ => hnone columns,
    askCatalog_of_open h, contained_ask_iff h, contained_columnsOf_iff]

theorem contained_foreignKeys (h : r.Open dialect) : Contained (r.foreignKeys db name) := by
  rw [Reader.foreignKeys, askCatalog_of_open h]
  exact contained_ask_of_answered h (contained_ok _)

theorem contained_catalogKey (h : r.Open dialect) : Contained (r.catalogKey db name) := by
  rw [Reader.catalogKey]
  cases r.dialect.bind Reader.catalogKeyTopic with
  | none => exact contained_ok _
  | some topic => exact contained_ask_of_answered h (contained_ok _)

theorem contained_indexes (h : r.Open dialect) : Contained (r.indexes db name) := by
  rw [Reader.indexes, contained_bind_iff]
  refine ⟨contained_ask_of_answered h (contained_ok _), fun constraints _ => ?_⟩
  dsimp only
  rw [contained_bind_iff]
  refine ⟨contained_catalogKey h, fun key _ => ?_⟩
  split_ifs
  · exact contained_ok _
  · exact contained_ok _
  · rw [contained_bind_iff]
    refine ⟨contained_ask_of_answered h (contained_ok _), fun key _ => ?_⟩
    split_ifs
    · exact contained_ok _
    · exact contained_ok _

/-- The value lists of a table are read, unless a text among them is no list. -/
theorem contained_valueLists_iff (h : r.Open dialect) :
    Contained (r.valueLists db name) ↔
      ((db.table dialect name).failure? (Reader.valueListTopic dialect) = none →
        ∀ text ∈ (db.table dialect name).rows.listTexts, QuotedList.IsList text) := by
  rw [Reader.valueLists, askCatalog_of_open h, contained_ask_iff h, contained_valueListsOf_iff]

/-- The texts in the answers about a table can be read, those that are reached. -/
structure Reader.Legible (r : Reader) (db : Recording) (dialect : Dialect) (name : String) :
    Prop where
  types : (db.table dialect name).failure? .columns = none →
    ∀ native ∈ (db.table dialect name).rows.declaredTypes, ShortArguments native
  lists : r.Reached db name →
    (db.table dialect name).failure? (Reader.valueListTopic dialect) = none →
      ∀ text ∈ (db.table dialect name).rows.listTexts, QuotedList.IsList text

/-- **A table is read or excluded** exactly when the texts that are reached can be read. -/
theorem contained_table_iff (h : r.Open dialect) :
    Contained (r.table db name) ↔ r.Legible db dialect name := by
  have hlists : Contained (r.valueLists db name) ↔ _ := contained_valueLists_iff h
  rw [Reader.table, contained_bind_iff, contained_columns_iff h]
  constructor
  · rintro ⟨htypes, hrest⟩
    refine ⟨htypes, ?_⟩
    rintro ⟨⟨columns, hcolumns⟩, ⟨keys, hkeys⟩, indexes, hindexes⟩
    have hkeysOn := (contained_bind_iff.mp (hrest columns hcolumns)).2 keys hkeys
    have hindexesOn := (contained_bind_iff.mp hkeysOn).2 indexes hindexes
    exact hlists.mp (contained_bind_iff.mp hindexesOn).1
  · rintro ⟨htypes, hreached⟩
    refine ⟨htypes, fun columns hcolumns => contained_bind_iff.mpr ⟨contained_foreignKeys h, ?_⟩⟩
    refine fun keys hkeys => contained_bind_iff.mpr ⟨contained_indexes h, ?_⟩
    refine fun indexes hindexes => contained_bind_iff.mpr ⟨hlists.mpr ?_, fun _ _ => contained_ok _⟩
    exact hreached ⟨⟨columns, hcolumns⟩, ⟨keys, hkeys⟩, indexes, hindexes⟩

/-- Types of any usual length, and value lists that stand on one line. -/
structure Rows.Plain (rows : Rows) : Prop where
  types : ∀ native ∈ rows.declaredTypes, native.length ≤ maxDigits
  lists : ∀ text ∈ rows.listTexts, Unbroken text ∧ text.length ≤ maxLiteralLength

theorem legible_of_plain (h : (db.table dialect name).rows.Plain) :
    r.Legible db dialect name where
  types _ native hnative := shortArguments_of_length (h.types native hnative)
  lists _ _ text htext :=
    QuotedList.isList_of_unbroken (h.lists text htext).1 (h.lists text htext).2

/-- A table that is read has the name that it was asked for. -/
theorem name_of_table {t : Table} (h : r.table db name = .ok t) : t.name = name := by
  rw [Reader.table] at h
  obtain ⟨columns, -, h⟩ := bind_eq_ok.mp h
  obtain ⟨keys, -, h⟩ := bind_eq_ok.mp h
  obtain ⟨indexes, -, h⟩ := bind_eq_ok.mp h
  obtain ⟨lists, -, h⟩ := bind_eq_ok.mp h
  rw [← pure_eq_ok.mp h]
  rfl

end Questions

end Catalog
end TableCast
