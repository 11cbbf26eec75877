import TableCast.Run.Account
import TableCast.Proofs.Model.Exclusions

/-!
# Statuses

The outcome of a run is computed from the statuses of its tables, the records of its artifacts and
its diagnostics.  The status of a table says whether it was excluded or cut short.

**Results.**
* `Result.reflects`: the outcome of a run, from the statuses and the records alone.
* `map_table_result`: the tables of a result.
* `mem_succeededTables_result`, `mem_failedTables_result`: which of them succeed and which fail.
-/

namespace TableCast
namespace Run

open Emit Model

section Outcomes

variable {r : Result}

namespace Result

/-- Whether there are tables and all of them failed. -/
def AllFailed (r : Result) : Prop := r.tables ≠ [] ∧ ∀ t ∈ r.tables, t.succeeded = false

/-- Whether no table failed and no artifact is in error. -/
def NoneFailed (r : Result) : Prop :=
  (∀ t ∈ r.tables, t.succeeded = true) ∧ ∀ a ∈ r.artifacts, a.status ≠ .error

/-- The outcome of a run tells which of its tables and artifacts failed. -/
structure Reflects (r : Result) : Prop where
  failure : r.status = .failure ↔ r.AllFailed
  success : r.status = .success ↔ r.NoneFailed
  partialFailure : r.status = .partialFailure ↔ ¬r.AllFailed ∧ ¬r.NoneFailed
  clean : r.status = .success → ∀ d ∈ r.diagnostics, d.isError = false

theorem not_noneFailed_iff :
    ¬r.NoneFailed ↔
      (∃ t ∈ r.tables, t.succeeded = false) ∨ ∃ a ∈ r.artifacts, a.status = .error := by
  simp only [NoneFailed, not_and_or, not_forall, Bool.not_eq_true, ne_eq, not_not, exists_prop]

theorem not_noneFailed_of_allFailed (h : r.AllFailed) : ¬r.NoneFailed := by
  obtain ⟨t, ht⟩ := List.exists_mem_of_ne_nil _ h.1
  exact not_noneFailed_iff.mpr (.inl ⟨t, ht, h.2 t ht⟩)

/-- Errors in the diagnostics change nothing when each of them has a failed table or an artifact in
error behind it. -/
theorem reflects
    (hcancelled : r.cancelled = false)
    (herrors : ∀ d ∈ r.diagnostics, d.isError = true →
      (∃ t ∈ r.tables, t.succeeded = false) ∨ ∃ a ∈ r.artifacts, a.status = .error) :
    r.Reflects := by
  have hall : (!r.tables.isEmpty && r.tables.all (!·.succeeded)) = true ↔ r.AllFailed := by
    simp [AllFailed]
  have hnoted : r.diagnostics.any (·.severity == .error) = true → ¬r.NoneFailed := by
    intro h
    obtain ⟨d, hd, herror⟩ := List.any_eq_true.mp h
    exact not_noneFailed_iff.mpr (herrors d hd herror)
  have hsome : (r.tables.any (!·.succeeded) || r.artifacts.any (·.status == .error) ||
      r.diagnostics.any (·.severity == .error)) = true ↔ ¬r.NoneFailed := by
    have hfirst : (r.tables.any (!·.succeeded) || r.artifacts.any (·.status == .error)) = true ↔
        ¬r.NoneFailed := by
      rw [not_noneFailed_iff]
      simp
    rw [Bool.or_eq_true, hfirst]
    exact or_iff_left_of_imp hnoted
  by_cases hfailed : r.AllFailed
  · have hstatus : r.status = .failure := by
      rw [status, hcancelled, if_neg Bool.false_ne_true, if_pos (hall.mpr hfailed)]
    have hnone := not_noneFailed_of_allFailed hfailed
    constructor
    · simp [hstatus, hfailed]
    · simp [hstatus, hnone]
    · simp [hstatus, hfailed]
    · simp [hstatus]
  · by_cases hnone : r.NoneFailed
    · have hstatus : r.status = .success := by
        rw [status, hcancelled, if_neg Bool.false_ne_true, if_neg (mt hall.mp hfailed),
          if_neg (mt hsome.mp (not_not.mpr hnone))]
      constructor
      · simp [hstatus, hfailed]
      · simp [hstatus, hnone]
      · simp [hstatus, hnone]
      · intro _ d hd
        by_contra herror
        exact hnoted (List.any_eq_true.mpr ⟨d, hd, Bool.of_not_eq_false herror⟩) hnone
    · have hstatus : r.status = .partialFailure := by
        rw [status, hcancelled, if_neg Bool.false_ne_true, if_neg (mt hall.mp hfailed),
          if_pos (hsome.mpr hnone)]
      constructor
      · simp [hstatus, hfailed]
      · simp [hstatus, hnone]
      · simp [hstatus, hfailed, hnone]
      · simp [hstatus]

end Result

end Outcomes

section Statuses

variable {a : Account} {emitted : List String} {excluded : List (String × String)}
variable {cancelled : Bool} {name : String}

namespace Account

theorem succeeded_statusOf (a : Account) (table : String) :
    (a.statusOf table).succeeded = !a.cut.contains table := by
  rw [statusOf]
  cases a.cut.contains table with
  | true => rfl
  | false => rfl

theorem table_statusOf (a : Account) (table : String) : (a.statusOf table).table = table := by
  rw [statusOf]
  split_ifs
  · rfl
  · rfl

theorem mem_tables_result {t : TableStatus} :
    t ∈ (a.result emitted excluded cancelled).tables ↔
      (∃ entry ∈ excluded, t = excludedStatus entry.1 entry.2) ∨
      ∃ table ∈ emitted, t = a.statusOf table := by
  simp only [result, List.mem_mergeSort, List.mem_append, List.mem_map, eq_comm]

/-- The tables of a result are those that were excluded and those that were emitted. -/
theorem map_table_result (a : Account) (emitted : List String) (excluded : List (String × String))
    (cancelled : Bool) :
    ((a.result emitted excluded cancelled).tables.map (·.table)).Perm
      (excluded.map (·.1) ++ emitted) := by
  have hperm : (a.result emitted excluded cancelled).tables.Perm
      ((excluded.map fun entry => excludedStatus entry.1 entry.2) ++
        emitted.map a.statusOf) := List.mergeSort_perm _ _
  have hexcluded : (TableStatus.table ∘ fun (entry : String × String) =>
      excludedStatus entry.1 entry.2) = Prod.fst := rfl
  have hemitted : (TableStatus.table ∘ a.statusOf) = id := funext a.table_statusOf
  refine (hperm.map (·.table)).trans ?_
  rw [List.map_append, List.map_map, List.map_map, hexcluded, hemitted, List.map_id]

/-- An emitted table that was not excluded has one status. -/
theorem filter_tables_result (hemitted : name ∈ emitted) (hnodup : emitted.Nodup)
    (hapart : name ∉ excluded.map (·.1)) :
    (a.result emitted excluded cancelled).tables.filter (·.table == name) = [a.statusOf name] := by
  have hexcluded : (excluded.map fun entry => excludedStatus entry.1 entry.2).filter
      (·.table == name) = [] := by
    rw [List.filter_eq_nil_iff]
    intro status hstatus htable
    obtain ⟨entry, hentry, rfl⟩ := List.mem_map.mp hstatus
    exact hapart (beq_iff_eq.mp htable ▸ List.mem_map_of_mem hentry)
  have hone : (emitted.map a.statusOf).filter (·.table == name) = [a.statusOf name] := by
    have hkeys : ((emitted.map a.statusOf).map (·.table)).Nodup := by
      have hkey : TableStatus.table ∘ a.statusOf = id := funext a.table_statusOf
      rw [List.map_map, hkey, List.map_id]
      exact hnodup
    have hsingle := Reordering.filter_eq_singleton (List.mem_map_of_mem hemitted) hkeys
    rwa [table_statusOf] at hsingle
  have hperm : ((a.result emitted excluded cancelled).tables.filter (·.table == name)).Perm
      (((excluded.map fun entry => excludedStatus entry.1 entry.2) ++
        emitted.map a.statusOf).filter (·.table == name)) := (List.mergeSort_perm _ _).filter _
  rw [List.filter_append, hexcluded, hone, List.nil_append] at hperm
  exact List.perm_singleton.mp hperm

/-- An emitted table succeeds unless it is cut short. -/
theorem mem_succeededTables_result :
    name ∈ (a.result emitted excluded cancelled).succeededTables ↔
      name ∈ emitted ∧ name ∉ a.cut := by
  rw [Result.succeededTables, List.mem_map]
  constructor
  · rintro ⟨t, ht, rfl⟩
    obtain ⟨ht, hsucceeded⟩ := List.mem_filter.mp ht
    rcases mem_tables_result.mp ht with ⟨entry, -, rfl⟩ | ⟨table, htable, rfl⟩
    · cases hsucceeded
    · rw [succeeded_statusOf] at hsucceeded
      rw [table_statusOf]
      exact ⟨htable, by simpa using hsucceeded⟩
  · rintro ⟨hemitted, huncut⟩
    refine ⟨a.statusOf name, List.mem_filter.mpr ⟨?_, ?_⟩, a.table_statusOf name⟩
    · exact mem_tables_result.mpr (.inr ⟨name, hemitted, rfl⟩)
    · rw [succeeded_statusOf]
      simpa using huncut

/-- A table fails when it is excluded or cut short. -/
theorem mem_failedTables_result :
    name ∈ (a.result emitted excluded cancelled).failedTables ↔
      name ∈ excluded.map (·.1) ∨ name ∈ emitted ∧ name ∈ a.cut := by
  rw [Result.failedTables, List.mem_map]
  constructor
  · rintro ⟨t, ht, rfl⟩
    obtain ⟨ht, hfailed⟩ := List.mem_filter.mp ht
    rcases mem_tables_result.mp ht with ⟨entry, hentry, rfl⟩ | ⟨table, htable, rfl⟩
    · exact .inl (List.mem_map_of_mem hentry)
    · rw [succeeded_statusOf] at hfailed
      rw [table_statusOf]
      exact .inr ⟨htable, by simpa using hfailed⟩
  · rintro (hexcluded | ⟨hemitted, hcut⟩)
    · obtain ⟨entry, hentry, rfl⟩ := List.mem_map.mp hexcluded
      refine ⟨excludedStatus entry.1 entry.2, List.mem_filter.mpr ⟨?_, rfl⟩, rfl⟩
      exact mem_tables_result.mpr (.inl ⟨entry, hentry, rfl⟩)
    · refine ⟨a.statusOf name, List.mem_filter.mpr ⟨?_, ?_⟩, a.table_statusOf name⟩
      · exact mem_tables_result.mpr (.inr ⟨name, hemitted, rfl⟩)
      · rw [succeeded_statusOf]
        simpa using hcut

end Account

end Statuses

end Run
end TableCast
