import TableCast.Run.Generation
import TableCast.Proofs.Reordering

/-!
# Readings that nothing stops

When the token does not fire, every selected table is asked for.  Each one is read or excluded,
so the reading is given by what the source answers to each name.

**Results.**
* `readTables_of_calm`: the reading of all names, from the answers of the source.
-/

namespace TableCast
namespace Run

open Schema Model Emit Files

/-- The fault for which a table cannot be read. -/
def readFault? (source : Source) (name : String) : Option Fault :=
  match source.table name with
  | .error (.fault fault) => some fault
  | _ => none

/-- The tables that can be read. -/
def tablesRead (source : Source) (names : List String) : List Table :=
  names.filterMap fun name => (source.table name).toOption

/-- The tables that cannot be read, and why. -/
def failuresRead (source : Source) (names : List String) : List (String × String) :=
  names.filterMap fun name => (readFault? source name).map fun fault => (name, fault.message)

/-- What is noted about the tables that cannot be read. -/
def diagnosticsRead (source : Source) (names : List String) : List Diagnostic :=
  names.filterMap fun name =>
    (readFault? source name).map fun fault => Diagnostic.ofFault (some name) fault none

/-- A name is answered by a table of that name, or by the fault that there is none. -/
inductive Answered (source : Source) (name : String) : Prop
  | read (table : Table) (h : source.table name = .ok table) (hname : table.name = name)
  | unreadable (fault : Fault) (h : source.table name = .error (.fault fault))
      (hkind : fault.kind = .schemaRead)

section Tokens

variable {token : Token}

/-- A token that is not seen to fire looks the same afterwards. -/
theorem look_of_calm (h : token.look.fired = false) : token.look = token := by
  rw [Token.look] at h ⊢
  split_ifs at h ⊢
  · rw [Token.fired_cancel] at h
    cases h
  · rfl

end Tokens

section Answers

variable {source : Source} {names : List String} {name : String}

theorem mem_tablesRead {table : Table} :
    table ∈ tablesRead source names ↔ ∃ name ∈ names, source.table name = .ok table := by
  rw [tablesRead, List.mem_filterMap]
  refine exists_congr fun name => and_congr_right fun _ => ?_
  cases source.table name with
  | error e => simp [Except.toOption]
  | ok t => simp [Except.toOption]

theorem readFault?_eq_some_iff {fault : Fault} :
    readFault? source name = some fault ↔ source.table name = .error (.fault fault) := by
  rw [readFault?]
  constructor
  · intro h
    split at h
    · rename_i f hf
      rw [hf, Option.some.inj h]
    · cases h
  · intro h
    rw [h]

theorem mem_keys_failuresRead :
    name ∈ (failuresRead source names).map (·.1) ↔
      name ∈ names ∧ ∃ fault, source.table name = .error (.fault fault) := by
  constructor
  · intro h
    obtain ⟨entry, hentry, rfl⟩ := List.mem_map.mp h
    obtain ⟨n, hn, hfault⟩ := List.mem_filterMap.mp hentry
    obtain ⟨fault, hread, rfl⟩ := Option.map_eq_some_iff.mp hfault
    exact ⟨hn, fault, readFault?_eq_some_iff.mp hread⟩
  · rintro ⟨hname, fault, hread⟩
    refine List.mem_map.mpr ⟨(name, fault.message), List.mem_filterMap.mpr ⟨name, hname, ?_⟩, rfl⟩
    rw [readFault?_eq_some_iff.mpr hread]
    rfl

/-- What is noted about the reading are errors, one for each table that cannot be read. -/
theorem mem_diagnosticsRead {d : Diagnostic} :
    d ∈ diagnosticsRead source names ↔
      ∃ name ∈ names, ∃ fault, source.table name = .error (.fault fault) ∧
        d = Diagnostic.ofFault (some name) fault none := by
  rw [diagnosticsRead, List.mem_filterMap]
  refine exists_congr fun name => and_congr_right fun _ => ?_
  rw [Option.map_eq_some_iff]
  exact exists_congr fun fault => and_congr readFault?_eq_some_iff eq_comm

end Answers

section Reading

variable {source : Source} {token : Token}

/-- The reading that the answers to some names give. -/
structure ReadSoFar (source : Source) (token : Token) (names : List String) (r : Reading) :
    Prop where
  tables : r.tables = tablesRead source names
  failures : r.failures = failuresRead source names
  diagnostics : r.diagnostics = diagnosticsRead source names
  token : r.token = token
  cancelled : r.cancelled = false
  problem : r.problem = none

theorem ReadSoFar.readTable
    {names : List String} {name : String} {r : Reading}
    (h : ReadSoFar source token names r) (hcalm : token.look.fired = false)
    (hname : Answered source name) :
    ReadSoFar source token (names ++ [name]) (Run.readTable source .never r name) := by
  have hgoes : (r.cancelled || r.problem.isSome) = false := by
    rw [h.cancelled, h.problem]
    rfl
  have hlook : r.token.look = token := by
    rw [h.token, look_of_calm hcalm]
  have hunfired : token.fired = false := by
    rwa [look_of_calm hcalm] at hcalm
  simp only [Run.readTable, hgoes, hlook, hunfired, Bool.false_eq_true, if_false, Stop.onRead]
  cases hname with
  | read table hread _ =>
      have hfault : readFault? source name = none := by rw [readFault?, hread]
      rw [hread]
      refine ⟨?_, ?_, ?_, rfl, h.cancelled, h.problem⟩
      · simp [Reading.note, tablesRead, h.tables, hread, Except.toOption]
      · simp [Reading.note, failuresRead, h.failures, hfault]
      · simp [Reading.note, diagnosticsRead, h.diagnostics, hfault]
  | unreadable fault hread hkind =>
      have hfault := readFault?_eq_some_iff.mpr hread
      have hexcluded : (fault.kind == .schemaRead) = true := beq_iff_eq.mpr hkind
      rw [hread]
      simp only [Reading.note, hexcluded, if_true, Reading.exclude]
      refine ⟨?_, ?_, ?_, rfl, h.cancelled, h.problem⟩
      · simp [tablesRead, h.tables, hread, Except.toOption]
      · simp [failuresRead, h.failures, hfault]
      · simp [diagnosticsRead, h.diagnostics, hfault]

/-- Nothing stops a reading: every name is answered. -/
theorem readTables_of_calm
    {names : List String} (hcalm : token.look.fired = false)
    (hnames : ∀ name ∈ names, Answered source name) :
    ReadSoFar source token names (readTables source .never token names) := by
  induction names using List.reverseRecOn with
  | nil => exact ⟨rfl, rfl, rfl, rfl, rfl, rfl⟩
  | append_singleton names name ih =>
      have hfirst := ih fun n hn => hnames n (List.mem_append_left _ hn)
      rw [readTables, List.foldl_append]
      exact hfirst.readTable hcalm (hnames name (List.mem_append_right _ (List.mem_singleton_self _)))

end Reading

end Run
end TableCast
