import TableCast.Proofs.Catalog.TableReads
import TableCast.Proofs.Run.Results

/-!
# Runs over catalogs

A run over a database reads its tables through the catalog.  A table that is read or excluded
leaves the others alone; a table that is neither ends the run.

**Results.**
* `readTables_of_unanswered`: a reading ends at the first table that is neither.
* `tables_read_or_excluded_iff`: when a table of a database is read or excluded, and what a run
  over it makes of all of its tables.
-/

namespace TableCast
namespace Run

open Schema Text Model Emit Files Catalog

section Unanswered

variable {source : Source} {token : Token} {names : List String} {name : String}

/-- A reading that a problem has ended stays as it is. -/
theorem readTable_of_problem {r : Reading} (h : r.problem.isSome = true) :
    readTable source .never r name = r := by
  rw [readTable, h, Bool.or_true, if_pos rfl]

/-- A source that gives tables the names that they are asked for. -/
def NamesTables (source : Source) : Prop :=
  ∀ name table, source.table name = .ok table → table.name = name

/-- The problem of a table that is neither read nor excluded. -/
theorem exists_problem_of_unanswered (hnames : NamesTables source) (h : ¬Answered source name) :
    ∃ problem, source.table name = .error problem := by
  cases hread : source.table name with
  | error problem => exact ⟨problem, rfl⟩
  | ok table => exact absurd (.read table hread (hnames name table hread)) h

theorem problem_readTable {r : Reading} {problem : Problem} (h : ReadSoFar source token names r)
    (hcalm : token.look.fired = false) (hread : source.table name = .error problem)
    (hname : ¬Answered source name) :
    (readTable source .never r name).problem = some problem := by
  have hgoes : (r.cancelled || r.problem.isSome) = false := by
    rw [h.cancelled, h.problem]
    rfl
  have hunfired : r.token.look.fired = false := by rwa [h.token]
  simp only [readTable, hgoes, hunfired, Bool.false_eq_true, if_false, hread]
  cases problem with
  | fault fault =>
      have hkind : (fault.kind == .schemaRead) = false := by
        rw [← Bool.not_eq_true, beq_iff_eq]
        exact fun hkind => hname (.unreadable fault hread hkind)
      simp only [Reading.note, hkind, Bool.false_eq_true, if_false]
  | _ => rfl

/-- A reading ends at the first table that is neither read nor excluded. -/
theorem readTables_of_unanswered (hnames : NamesTables source) (hcalm : token.look.fired = false)
    (hnot : ∃ name ∈ names, ¬Answered source name) :
    ∃ broken ∈ names, ∃ problem, ¬Answered source broken ∧ source.table broken = .error problem ∧
      (readTables source .never token names).problem = some problem := by
  induction names using List.reverseRecOn with
  | nil =>
      obtain ⟨name, hname, -⟩ := hnot
      exact absurd hname List.not_mem_nil
  | append_singleton names last ih =>
      rw [readTables, List.foldl_append]
      by_cases hbefore : ∃ name ∈ names, ¬Answered source name
      · obtain ⟨broken, hbroken, problem, hunanswered, hread, hproblem⟩ := ih hbefore
        refine ⟨broken, List.mem_append_left _ hbroken, problem, hunanswered, hread, ?_⟩
        show (readTable source .never (readTables source .never token names) last).problem = _
        rw [readTable_of_problem (by rw [hproblem]; rfl), hproblem]
      · have hall : ∀ name ∈ names, Answered source name := fun name hname =>
          not_not.mp fun hunanswered => hbefore ⟨name, hname, hunanswered⟩
        have hlast : ¬Answered source last := by
          obtain ⟨name, hname, hunanswered⟩ := hnot
          rcases List.mem_append.mp hname with hmem | hmem
          · exact absurd (hall name hmem) hunanswered
          · rwa [← List.mem_singleton.mp hmem]
        obtain ⟨problem, hread⟩ := exists_problem_of_unanswered hnames hlast
        have hmem : last ∈ names ++ [last] := List.mem_append_right _ (List.mem_singleton_self _)
        exact ⟨last, hmem, problem, hlast, hread,
          problem_readTable (readTables_of_calm hcalm hall) hcalm hread hlast⟩

end Unanswered

section Begun

/-- A run that connects to its database and lists the tables, and that nothing stops. -/
structure Begun (options : Options) (db : Recording) (token : Token) (disk : Disk)
    (set : TemplateSet) (r : Reader) (dialect : Dialect) (names : List String) : Prop where
  loaded : loadTemplateSet disk options.templateSet = .ok set
  opened : Reader.opened { connection := options.connection } db = .ok r
  engine : r.dialect = some dialect
  listed : r.tableNames db options.selection = .ok names
  calm : (tokenFor options token).look.fired = false

variable {options : Options} {db : Recording} {token : Token} {disk : Disk} {set : TemplateSet}
variable {r : Reader} {dialect : Dialect} {names : List String} {name : String}

/-- The source of a run over a database. -/
theorem ofReader_of_opened {connection : String}
    (h : Reader.opened { connection := connection } db = .ok r) :
    (Source.ofReader db connection).table = r.table db ∧
      (Source.ofReader db connection).names = r.tableNames db ∧
      (∀ dialect, r.dialect = some dialect →
        (Source.ofReader db connection).connect = .ok dialect) := by
  rw [Source.ofReader, h]
  refine ⟨rfl, rfl, fun dialect hdialect => ?_⟩
  dsimp only
  rw [hdialect]

theorem Begun.table_eq (h : Begun options db token disk set r dialect names) :
    (Source.ofReader db options.connection).table = r.table db :=
  (ofReader_of_opened h.opened).1

theorem Begun.answered_iff (h : Begun options db token disk set r dialect names) :
    Answered (Source.ofReader db options.connection) name ↔ Contained (r.table db name) := by
  constructor
  · rintro (⟨table, hread, -⟩ | ⟨fault, hread, hkind⟩)
    · exact .read table (h.table_eq ▸ hread)
    · exact .excluded fault (h.table_eq ▸ hread) hkind
  · rintro (⟨table, hread⟩ | ⟨fault, hread, hkind⟩)
    · exact .read table (h.table_eq ▸ hread) (name_of_table hread)
    · exact .unreadable fault (h.table_eq ▸ hread) hkind

theorem Begun.namesTables (h : Begun options db token disk set r dialect names) :
    NamesTables (Source.ofReader db options.connection) := by
  intro name table hread
  rw [h.table_eq] at hread
  exact name_of_table hread

/-- The tables of a run over a database, read one after the other. -/
def readingOf (options : Options) (db : Recording) (token : Token) (names : List String) :
    Reading :=
  readTables (Source.ofReader db options.connection) .never (tokenFor options token)
    (sortedNames names)

/-- The run that has begun is one that reads and emits. -/
theorem Begun.outcome_eq (h : Begun options db token disk set r dialect names) :
    (generate options (Source.ofReader db options.connection) .never token disk).outcome =
      (readAndEmit set options (Source.ofReader db options.connection) dialect names .never
        (tokenFor options token) disk).outcome := by
  obtain ⟨-, hnames, hconnect⟩ := ofReader_of_opened h.opened
  simp only [generate, h.loaded, generateWith, hconnect dialect h.engine, hnames, h.listed]

/-- When every table is read or excluded, the run goes on with those that are read. -/
theorem Begun.goes_on (h : Begun options db token disk set r dialect names)
    (hall : ∀ name ∈ names, Contained (r.table db name)) :
    ReadSoFar (Source.ofReader db options.connection) (tokenFor options token) (sortedNames names)
        (readingOf options db token names) ∧
      (generate options (Source.ofReader db options.connection) .never token disk).outcome =
        (assembleAndEmit set options dialect names .never disk
          (readingOf options db token names)).outcome := by
  have hreading : ReadSoFar (Source.ofReader db options.connection) (tokenFor options token)
      (sortedNames names) (readingOf options db token names) :=
    readTables_of_calm h.calm fun name hname =>
      h.answered_iff.mpr (hall name (mem_sortedNames.mp hname))
  refine ⟨hreading, ?_⟩
  rw [h.outcome_eq]
  unfold readingOf sortedNames at hreading ⊢
  simp only [readAndEmit, hreading.problem, hreading.cancelled, Bool.false_eq_true, if_false]

/-- A table that is neither ends the run, with the problem of such a table. -/
theorem Begun.ends (h : Begun options db token disk set r dialect names)
    (hnot : ∃ name ∈ names, ¬Contained (r.table db name)) :
    ∃ broken ∈ names, ∃ problem, ¬Contained (r.table db broken) ∧
      r.table db broken = .error problem ∧
      (generate options (Source.ofReader db options.connection) .never token disk).outcome =
        .error problem := by
  obtain ⟨name, hname, huncontained⟩ := hnot
  have hunanswered : ∃ n ∈ sortedNames names,
      ¬Answered (Source.ofReader db options.connection) n :=
    ⟨name, mem_sortedNames.mpr hname, fun hanswered => huncontained (h.answered_iff.mp hanswered)⟩
  obtain ⟨broken, hbroken, problem, hnot, hread, hproblem⟩ :=
    readTables_of_unanswered h.namesTables h.calm hunanswered
  rw [h.table_eq] at hread
  refine ⟨broken, mem_sortedNames.mp hbroken, problem,
    fun hcontained => hnot (h.answered_iff.mpr hcontained), hread, ?_⟩
  rw [h.outcome_eq]
  unfold sortedNames at hproblem
  simp only [readAndEmit, hproblem]

/-- **Tables of a database**: each one is read or excluded exactly when the texts about it can be
read.  When all selected tables are, a run goes on with those that are read; otherwise it ends with
the problem of a table that is not. -/
theorem tables_read_or_excluded_iff {r₀ r : Reader} {db : Recording}
    (hopened : r₀.opened db = .ok r) :
    ∃ dialect, db.dialect? = some dialect ∧
      (∀ name, Contained (r.table db name) ↔ r.Legible db dialect name) ∧
      ∀ options token disk set names, Begun options db token disk set r dialect names →
        ((∀ name ∈ names, r.Legible db dialect name) →
          ReadSoFar (Source.ofReader db options.connection) (tokenFor options token)
              (sortedNames names) (readingOf options db token names) ∧
            (generate options (Source.ofReader db options.connection) .never token disk).outcome =
              (assembleAndEmit set options dialect names .never disk
                (readingOf options db token names)).outcome) ∧
        ((∃ name ∈ names, ¬r.Legible db dialect name) →
          ∃ broken ∈ names, ∃ problem, ¬r.Legible db dialect broken ∧
            r.table db broken = .error problem ∧
            (generate options (Source.ofReader db options.connection) .never token disk).outcome =
              .error problem) := by
  obtain ⟨dialect, hdialect, hopen⟩ := Reader.open_of_opened hopened
  have hiff : ∀ name, Contained (r.table db name) ↔ r.Legible db dialect name := fun name =>
    contained_table_iff hopen
  refine ⟨dialect, hdialect, hiff, fun options token disk set names hbegun => ⟨?_, ?_⟩⟩
  · exact fun hlegible => hbegun.goes_on fun name hname => (hiff name).mpr (hlegible name hname)
  · rintro ⟨name, hname, hillegible⟩
    obtain ⟨broken, hbroken, problem, hnot, hends⟩ :=
      hbegun.ends ⟨name, hname, fun hcontained => hillegible ((hiff name).mp hcontained)⟩
    exact ⟨broken, hbroken, problem, fun hlegible => hnot ((hiff broken).mpr hlegible), hends⟩

/-- A table that keeps a number. -/
def noteTable : RecordedTable :=
  { name := "note"
    rows := .sqlite [⟨0, "id", some "INTEGER", true, none, 1⟩] []
      (some "CREATE TABLE note (id INTEGER)") }

/-- How a table is declared whose closed value list takes two lines. -/
def twoLineDeclaration : String := "CREATE TABLE t (s TEXT CHECK (s IN ('a',\n'b')))"

/-- A table with a closed value list that takes two lines. -/
def twoLineTable : RecordedTable :=
  { name := "t"
    rows := .sqlite [⟨0, "s", some "TEXT", false, none, 0⟩] [] (some twoLineDeclaration) }

/-- A database with a table that is gone when it is read. -/
def oneDropped : Recording :=
  { items := [{ name := "gone" }, { name := "note" }], tables := [noteTable] }

/-- A database with a closed value list that takes two lines. -/
def twoLines : Recording :=
  { items := [{ name := "note" }, { name := "t" }], tables := [noteTable, twoLineTable] }

/-- The reader that has opened a connection to either of them. -/
def openReader : Reader := { connected := true, dialect := some .sqlite }

theorem begun_oneDropped :
    Begun planOnly oneDropped {} bareDisk pythonSet openReader .sqlite ["gone", "note"] where
  loaded := loadTemplateSet_bareDisk
  opened := by cbv
  engine := rfl
  listed := by cbv
  calm := rfl

theorem legible_oneDropped :
    ∀ name ∈ ["gone", "note"], openReader.Legible oneDropped .sqlite name := by
  intro name hname
  refine legible_of_plain ?_
  rcases List.mem_pair.mp hname with rfl | rfl
  · exact ⟨fun _ h => absurd h List.not_mem_nil, fun _ h => absurd h List.not_mem_nil⟩
  · have htypes : (oneDropped.table .sqlite "note").rows.declaredTypes = ["INTEGER"] := by cbv
    have hlists : (oneDropped.table .sqlite "note").rows.listTexts = [] := by cbv
    constructor
    · rw [htypes]
      decide
    · rw [hlists]
      exact fun _ h => absurd h List.not_mem_nil

/-- The table that is gone is excluded, the other one is read. -/
theorem reading_of_oneDropped :
    Reader.opened {} oneDropped = .ok openReader ∧
      (∀ name ∈ ["gone", "note"], Contained (openReader.table oneDropped name)) ∧
      (readingOf planOnly oneDropped {} ["gone", "note"]).failures.map (·.1) = ["gone"] ∧
      (readingOf planOnly oneDropped {} ["gone", "note"]).tables.map (·.name) = ["note"] := by
  have hbegun := begun_oneDropped
  obtain ⟨dialect, hdialect, hiff, hruns⟩ := tables_read_or_excluded_iff hbegun.opened
  obtain rfl := Option.some.inj (hdialect.symm.trans (rfl : oneDropped.dialect? = some .sqlite))
  obtain ⟨hgoes, -⟩ := hruns planOnly {} bareDisk pythonSet ["gone", "note"] hbegun
  obtain ⟨hreading, -⟩ := hgoes legible_oneDropped
  refine ⟨hbegun.opened, fun name hname => (hiff name).mpr (legible_oneDropped name hname), ?_, ?_⟩
  · rw [hreading.failures]
    cbv
  · rw [hreading.tables]
    cbv

theorem begun_twoLines :
    Begun planOnly twoLines {} bareDisk pythonSet openReader .sqlite ["note", "t"] where
  loaded := loadTemplateSet_bareDisk
  opened := by cbv
  engine := rfl
  listed := by cbv
  calm := rfl

theorem valueLists_twoLineDeclaration :
    Sqlite.valueLists twoLineDeclaration = .error .lineBreak := by
  cbv

theorem table_twoLines_note : ∃ table, openReader.table twoLines "note" = .ok table :=
  ⟨_, by cbv⟩

theorem table_twoLines_t :
    openReader.table twoLines "t" = .error (.badList ListError.lineBreak.message) := by
  have hcolumns : ∃ columns, openReader.columns twoLines "t" = .ok columns := ⟨_, by cbv⟩
  have hkeys : ∃ keys, openReader.foreignKeys twoLines "t" = .ok keys := ⟨_, by cbv⟩
  have hindexes : ∃ indexes, openReader.indexes twoLines "t" = .ok indexes := ⟨_, by cbv⟩
  have hlists : openReader.valueLists twoLines "t" =
      .error (.badList ListError.lineBreak.message) := by
    show (Sqlite.valueLists twoLineDeclaration).mapError Reader.listProblem = _
    rw [valueLists_twoLineDeclaration]
    rfl
  obtain ⟨columns, hcolumns⟩ := hcolumns
  obtain ⟨keys, hkeys⟩ := hkeys
  obtain ⟨indexes, hindexes⟩ := hindexes
  rw [Reader.table, hcolumns, hkeys, hindexes, hlists]
  rfl

/-- A table that is neither read nor excluded: the run ends, and the other table is lost with it. -/
theorem run_of_twoLines_ends :
    Reader.opened {} twoLines = .ok openReader ∧
      ¬Contained (openReader.table twoLines "t") ∧
      (∃ table, openReader.table twoLines "note" = .ok table) ∧
      (generate planOnly (Source.ofReader twoLines planOnly.connection) .never {}
        bareDisk).outcome = .error (.badList ListError.lineBreak.message) := by
  have hnot : ¬Contained (openReader.table twoLines "t") := by
    rw [table_twoLines_t]
    rintro (⟨_, h⟩ | ⟨_, h, -⟩) <;> cases h
  obtain ⟨broken, hbroken, problem, huncontained, hread, houtcome⟩ :=
    begun_twoLines.ends ⟨"t", List.mem_cons_of_mem _ (List.mem_singleton_self _), hnot⟩
  refine ⟨begun_twoLines.opened, hnot, table_twoLines_note, ?_⟩
  rcases List.mem_pair.mp hbroken with rfl | rfl
  · obtain ⟨table, htable⟩ := table_twoLines_note
    exact absurd (.read table htable) huncontained
  · obtain rfl := Except.error.inj (table_twoLines_t.symm.trans hread)
    exact houtcome

end Begun

end Run
end TableCast
