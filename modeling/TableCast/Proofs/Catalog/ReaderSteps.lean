import Mathlib
import TableCast.Catalog.Reader

/-!
# A reader step by step

A reader is opened, closed and asked in any order, and the database behind it may be another one at
every step.  What it remembers is told by its steps: it holds a connection when it was opened after
it was closed last, and it has a catalog to ask when it was ever opened.  An opening that fails
changes nothing.

**Results.**
* `opened_eq_ok_iff`: when an opening succeeds.
* `connected_run_iff`, `dialect_run_iff`: what a reader remembers, told by its steps.
* `find_of_not_connected`: what a question gives that is asked without a connection.
* `reads_without_connection`: the same after any steps.
* `columns_before_opening`: a reader that was never opened is asked for columns.
-/

namespace TableCast
namespace Catalog

open Schema

/-- What a reader is asked about a database. -/
inductive Question where
  | tables (selection : Selection)
  | columns (table : String)
  | foreignKeys (table : String)
  | valueLists (table : String)
  | indexes (table : String)

/-- What a reader finds out. -/
inductive Finding where
  | tables (names : List String)
  | columns (columns : List Column)
  | foreignKeys (keys : List ForeignKey)
  | valueLists (lists : List ValueList)
  | indexes (indexes : List Index)

/-- The query that a question asks the catalog for before anything else. -/
def Question.query? : Question → Option String
  | .tables _ => none
  | .columns _ => some "columns"
  | .foreignKeys _ => some "foreign_keys"
  | .valueLists _ => some "enum_columns"
  | .indexes _ => none

/-- A step of a reader, with the database that it meets. -/
inductive Step where
  | opening (db : Recording)
  | closing
  | reading (db : Recording) (question : Question)

namespace Reader

/-- The answer to a question. -/
def find (r : Reader) (db : Recording) : Question → Except Problem Finding
  | .tables selection => (r.tableNames db selection).map .tables
  | .columns table => (r.columns db table).map .columns
  | .foreignKeys table => (r.foreignKeys db table).map .foreignKeys
  | .valueLists table => (r.valueLists db table).map .valueLists
  | .indexes table => (r.indexes db table).map .indexes

/-- The answer to a step, if it has one, and the reader afterwards. -/
def perform (r : Reader) : Step → Except Problem (Option Finding) × Reader
  | .opening db =>
    match r.opened db with
    | .ok next => (.ok none, next)
    | .error problem => (.error problem, r)
  | .closing => (.ok none, r.closed)
  | .reading db question => ((r.find db question).map some, r)

/-- The reader after some steps. -/
def run (r : Reader) (steps : List Step) : Reader :=
  steps.foldl (fun r step => (r.perform step).2) r

section Steps

variable {r next : Reader} {db : Recording} {connection : String} {steps : List Step}

/-- Whether a database can be opened under an alias. -/
def Opens (connection : String) (db : Recording) : Prop :=
  connection = db.connection ∧ db.dialect?.isSome ∧ db.connectFailure = none

theorem opened_eq_ok_iff :
    r.opened db = .ok next ↔ Opens r.connection db ∧
      next = { r with connected := true, dialect := db.dialect? } := by
  rw [opened, Opens]
  by_cases halias : r.connection = db.connection
  · cases hdialect : db.dialect? with
    | none => simp [halias]
    | some dialect =>
        cases hfailure : db.connectFailure with
        | none => simp [halias, eq_comm]
        | some failure => cases failure <;> simp [halias]
  · simp [halias]

/-- Whether some opening succeeded. -/
def WasOpened (connection : String) (steps : List Step) : Prop :=
  ∃ db, .opening db ∈ steps ∧ Opens connection db

/-- Whether an opening succeeded after the last closing. -/
def HoldsConnection (connection : String) (steps : List Step) : Prop :=
  ∃ before db after, steps = before ++ .opening db :: after ∧ Opens connection db ∧
    .closing ∉ after

theorem run_append_singleton (r : Reader) (steps : List Step) (step : Step) :
    r.run (steps ++ [step]) = ((r.run steps).perform step).2 := by
  rw [run, List.foldl_append]
  rfl

/-- What one step does to a reader. -/
theorem perform_cases (r : Reader) (step : Step) :
    (∃ db, step = .opening db ∧ Opens r.connection db ∧
      (r.perform step).2 = { r with connected := true, dialect := db.dialect? }) ∨
    (step = .closing ∧ (r.perform step).2 = r.closed) ∨
    (step ≠ .closing ∧ (¬∃ db, step = .opening db ∧ Opens r.connection db) ∧
      (r.perform step).2 = r) := by
  cases step with
  | opening db =>
      cases hopened : r.opened db with
      | ok next =>
          obtain ⟨hopens, hnext⟩ := opened_eq_ok_iff.mp hopened
          exact Or.inl ⟨db, rfl, hopens, by rw [perform, hopened, hnext]⟩
      | error problem =>
          refine Or.inr (Or.inr ⟨nofun, ?_, by rw [perform, hopened]⟩)
          rintro ⟨_, ⟨⟩, hopens⟩
          rw [opened_eq_ok_iff.mpr ⟨hopens, rfl⟩] at hopened
          cases hopened
  | closing => exact Or.inr (Or.inl ⟨rfl, rfl⟩)
  | reading db question => exact Or.inr (Or.inr ⟨nofun, by rintro ⟨_, ⟨⟩, -⟩, rfl⟩)

theorem connection_run (r : Reader) (steps : List Step) :
    (r.run steps).connection = r.connection := by
  induction steps using List.reverseRecOn with
  | nil => rfl
  | append_singleton steps step ih =>
      rw [run_append_singleton]
      rcases (r.run steps).perform_cases step with
        ⟨db, -, -, heq⟩ | ⟨-, heq⟩ | ⟨-, -, heq⟩
      · rw [heq, ← ih]
      · rw [heq, ← ih]
        rfl
      · rw [heq, ih]

theorem holdsConnection_append_singleton {step : Step} :
    HoldsConnection connection (steps ++ [step]) ↔
      (∃ db, step = .opening db ∧ Opens connection db) ∨
      step ≠ .closing ∧ HoldsConnection connection steps := by
  constructor
  · rintro ⟨before, db, after, hsteps, hopens, hafter⟩
    rcases List.eq_nil_or_concat after with rfl | ⟨init, last, rfl⟩
    · obtain ⟨-, hstep⟩ := List.append_inj' hsteps rfl
      exact Or.inl ⟨db, List.singleton_injective hstep, hopens⟩
    · rw [List.concat_eq_append] at hsteps hafter
      rw [← List.cons_append, ← List.append_assoc] at hsteps
      obtain ⟨rfl, hstep⟩ := List.append_inj' hsteps rfl
      obtain rfl := List.singleton_injective hstep
      refine Or.inr ⟨fun hclosing => hafter (by simp [hclosing]), before, db, init, rfl, hopens, ?_⟩
      exact fun hmem => hafter (List.mem_append_left _ hmem)
  · rintro (⟨db, rfl, hopens⟩ | ⟨hstep, before, db, after, rfl, hopens, hafter⟩)
    · exact ⟨steps, db, [], rfl, hopens, List.not_mem_nil⟩
    · refine ⟨before, db, after ++ [step], by simp, hopens, fun hmem => ?_⟩
      rcases List.mem_append.mp hmem with hold | hlast
      · exact hafter hold
      · exact hstep (List.mem_singleton.mp hlast).symm

/-- A reader holds a connection when it was opened after it was closed last. -/
theorem connected_run_iff (connection : String) (steps : List Step) :
    (run { connection := connection } steps).connected = true ↔
      HoldsConnection connection steps := by
  induction steps using List.reverseRecOn with
  | nil => simp [run, HoldsConnection]
  | append_singleton steps step ih =>
      have hname := connection_run { connection := connection } steps
      rw [run_append_singleton, holdsConnection_append_singleton, ← ih]
      rcases (run { connection := connection } steps).perform_cases step with
        ⟨db, rfl, hopens, heq⟩ | ⟨rfl, heq⟩ | ⟨hstep, hfails, heq⟩
      · rw [hname] at hopens
        rw [heq]
        exact iff_of_true rfl (Or.inl ⟨db, rfl, hopens⟩)
      · simp [heq, closed]
      · rw [hname] at hfails
        simp [heq, hstep, hfails]

/-- A reader has a catalog to ask when it was ever opened: closing it leaves the catalog. -/
theorem dialect_run_iff (connection : String) (steps : List Step) :
    (run { connection := connection } steps).dialect.isSome = true ↔
      WasOpened connection steps := by
  induction steps using List.reverseRecOn with
  | nil => simp [run, WasOpened]
  | append_singleton steps step ih =>
      have hname := connection_run { connection := connection } steps
      have hlast : WasOpened connection (steps ++ [step]) ↔
          WasOpened connection steps ∨ ∃ db, step = .opening db ∧ Opens connection db := by
        simp only [WasOpened, List.mem_append, List.mem_singleton, or_and_right, exists_or,
          eq_comm]
      rw [run_append_singleton, hlast, ← ih]
      rcases (run { connection := connection } steps).perform_cases step with
        ⟨db, rfl, hopens, heq⟩ | ⟨rfl, heq⟩ | ⟨hstep, hfails, heq⟩
      · rw [hname] at hopens
        rw [heq]
        exact iff_of_true hopens.2.1 (Or.inr ⟨db, rfl, hopens⟩)
      · simp [heq, closed]
      · rw [hname] at hfails
        simp [heq, hfails]

end Steps

section Reads

variable {α : Type} {r : Reader} {db : Recording} {table what query : String}
variable {question : Question}

/-- The problem of a query without a catalog to send it to. -/
def noCatalogProblem (query : String) : Problem :=
  .absent ("'NoneType' object has no attribute '" ++ query ++ "'")

/-- What ends a question that is asked without a connection: a reader without a catalog fails
before it looks for a connection. -/
def unconnectedProblem (r : Reader) (question : Question) : Problem :=
  match r.dialect, question.query? with
  | none, some query => noCatalogProblem query
  | _, _ => .fault notOpenFault

theorem ask_of_not_connected (h : r.connected = false) (topic : Topic)
    (answer : RecordedTable → Except Problem α) :
    r.ask db table what topic answer = .error (.fault notOpenFault) := by
  rw [ask, h]

theorem askCatalog_of_not_connected (h : r.connected = false)
    (hquery : question.query? = some query) (topic : Dialect → Topic)
    (answer : RecordedTable → Except Problem α) :
    r.askCatalog db table what query topic answer = .error (r.unconnectedProblem question) := by
  rw [askCatalog, unconnectedProblem, hquery]
  cases r.dialect with
  | none => rfl
  | some dialect => exact ask_of_not_connected h (topic dialect) answer

theorem unconnectedProblem_of_no_query (hquery : question.query? = none) :
    r.unconnectedProblem question = .fault notOpenFault := by
  rw [unconnectedProblem, hquery]
  cases r.dialect <;> rfl

theorem find_of_not_connected (h : r.connected = false) (question : Question) :
    r.find db question = .error (r.unconnectedProblem question) := by
  cases question with
  | tables selection =>
      rw [find, tableNames, h, unconnectedProblem_of_no_query rfl]
      rfl
  | columns table =>
      rw [find, columns, askCatalog_of_not_connected h (rfl : (Question.columns table).query? = _)]
      rfl
  | foreignKeys table =>
      rw [find, foreignKeys,
        askCatalog_of_not_connected h (rfl : (Question.foreignKeys table).query? = _)]
      rfl
  | valueLists table =>
      rw [find, valueLists,
        askCatalog_of_not_connected h (rfl : (Question.valueLists table).query? = _)]
      rfl
  | indexes table =>
      rw [find, indexes, ask_of_not_connected h, unconnectedProblem_of_no_query rfl]
      rfl

/-- After any steps that leave a reader without a connection, a question leaves it as it is.  The
question is refused because the reader is not open exactly when it is no question to the catalog
or the reader was opened before; any other question fails for want of a catalog. -/
theorem reads_without_connection (connection : String) (steps : List Step) (db : Recording)
    (question : Question) (h : ¬HoldsConnection connection steps) :
    (run { connection := connection } steps).connected = false ∧
    ((run { connection := connection } steps).perform (.reading db question)).2 =
      run { connection := connection } steps ∧
    (((run { connection := connection } steps).perform (.reading db question)).1 =
        .error (.fault notOpenFault) ↔
      (question.query?.isSome → WasOpened connection steps)) ∧
    ∀ query, question.query? = some query → ¬WasOpened connection steps →
      ((run { connection := connection } steps).perform (.reading db question)).1 =
        .error (noCatalogProblem query) := by
  have hconnected : (run { connection := connection } steps).connected = false := by
    rwa [← connected_run_iff, Bool.not_eq_true] at h
  have hwas := dialect_run_iff connection steps
  have hanswer : ((run { connection := connection } steps).perform (.reading db question)).1 =
      .error ((run { connection := connection } steps).unconnectedProblem question) := by
    rw [perform, find_of_not_connected hconnected]
    rfl
  refine ⟨hconnected, rfl, ?_, ?_⟩
  · rw [hanswer, ← hwas, unconnectedProblem]
    cases (run { connection := connection } steps).dialect with
    | none => cases question.query? <;> simp [noCatalogProblem]
    | some dialect => simp
  · intro query hquery hnever
    rw [← hwas, Option.not_isSome_iff_eq_none] at hnever
    rw [hanswer, unconnectedProblem, hnever, hquery]

/-- A reader that was opened and closed, and could not be opened again. -/
def closedSteps : List Step :=
  [.opening {}, .closing, .opening { connectFailure := some (.refused "gone") }]

/-- It refuses a question for columns, and stays as it is. -/
theorem columns_of_closedSteps :
    ¬HoldsConnection "default" closedSteps ∧ WasOpened "default" closedSteps ∧
    ((run {} closedSteps).perform (.reading {} (.columns "t"))).1 =
      .error (.fault notOpenFault) ∧
    ((run {} closedSteps).perform (.reading {} (.columns "t"))).2 = run {} closedSteps := by
  have hheld : ¬HoldsConnection "default" closedSteps := by
    rw [← connected_run_iff]
    decide
  have hopened : WasOpened "default" closedSteps := ⟨{}, List.mem_cons_self, rfl, by decide, rfl⟩
  obtain ⟨-, hreader, hanswer, -⟩ :=
    reads_without_connection "default" closedSteps {} (.columns "t") hheld
  exact ⟨hheld, hopened, hanswer.mpr fun _ => hopened, hreader⟩

/-- A reader that was never opened does not refuse a question for columns: it has no catalog. -/
theorem columns_before_opening :
    ¬HoldsConnection "default" [] ∧
    ((run {} []).perform (.reading {} (.columns "t"))).1 =
      .error (.absent "'NoneType' object has no attribute 'columns'") ∧
    ((run {} []).perform (.reading {} (.columns "t"))).1 ≠ .error (.fault notOpenFault) := by
  have hanswer : ((run {} []).perform (.reading {} (.columns "t"))).1 =
      .error (.absent "'NoneType' object has no attribute 'columns'") := by
    rfl
  refine ⟨?_, hanswer, ?_⟩
  · rw [← connected_run_iff]
    decide
  · rw [hanswer]
    nofun

end Reads

end Reader
end Catalog
end TableCast
