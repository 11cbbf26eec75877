import TableCast.Run.Account
import TableCast.Proofs.Reordering

/-!
# What an account takes from its messages

The messages of a run are taken one after the other until no table is pending, and each part of
the account is what the messages of one kind tell.

**Results.**
* `foldl_take`: the account after any messages.
* `collect_eq_foldl`: all messages are taken when a table is pending before each of them.
* `collect_of_finishes`: they are when the last message of every table, and no other, finishes it.
-/

namespace TableCast
namespace Run

open Emit Model

namespace Message

/-- The table that a message is about. -/
def table : Message → String
  | .processed record _ => record.table
  | .cut table => table
  | .finished table => table

/-- The record that a message brings. -/
def record? : Message → Option ArtifactRecord
  | .processed record _ => some record
  | _ => none

/-- The diagnostic that a message brings. -/
def diagnostic? : Message → Option Diagnostic
  | .processed _ diagnostic => diagnostic
  | _ => none

/-- The table that a message cuts short. -/
def cut? : Message → Option String
  | .cut table => some table
  | _ => none

theorem table_of_record? {m : Message} {record : ArtifactRecord} (h : m.record? = some record) :
    m.table = record.table := by
  cases m with
  | processed r d =>
      obtain rfl := Option.some.inj h
      rfl
  | cut table => cases h
  | finished table => cases h

/-- The records of a table are those that the messages about it bring. -/
theorem filter_records (ms : List Message) (name : String) :
    (ms.filterMap record?).filter (·.table == name) =
      (ms.filter (·.table == name)).filterMap record? := by
  rw [List.filter_filterMap, List.filterMap_filter]
  refine List.filterMap_congr fun m _ => ?_
  cases m with
  | processed record diagnostic => rfl
  | cut table => exact (ite_self none).symm
  | finished table => exact (ite_self none).symm

end Message

namespace Account

variable {a : Account} {ms : List Message}

theorem take_eq (a : Account) (m : Message) :
    a.take m =
      { artifacts := a.artifacts ++ m.record?.toList
        diagnostics := a.diagnostics ++ m.diagnostic?.toList
        cut := a.cut ++ m.cut?.toList
        pending := a.pending.filter fun table => decide (.finished table ≠ m) } := by
  cases m with
  | processed record diagnostic => simp [take, Message.record?, Message.diagnostic?, Message.cut?]
  | cut table => simp [take, Message.record?, Message.diagnostic?, Message.cut?]
  | finished table =>
      have hkept : ∀ t : String, (t != table) = decide (Message.finished t ≠ .finished table) := by
        intro t
        rw [Bool.eq_iff_iff]
        simp
      simp [take, Message.record?, Message.diagnostic?, Message.cut?, hkept]

/-- Every part of an account tells what the messages of one kind brought. -/
theorem foldl_take (ms : List Message) (a : Account) :
    ms.foldl take a =
      { artifacts := a.artifacts ++ ms.filterMap Message.record?
        diagnostics := a.diagnostics ++ ms.filterMap Message.diagnostic?
        cut := a.cut ++ ms.filterMap Message.cut?
        pending := a.pending.filter fun table => !ms.contains (.finished table) } := by
  induction ms generalizing a with
  | nil => simp
  | cons m ms ih =>
      have hpart : ∀ {β : Type} (f : Message → Option β),
          (f m).toList ++ ms.filterMap f = (m :: ms).filterMap f := by
        intro β f
        rw [List.filterMap_cons]
        cases f m with
        | none => rfl
        | some b => rfl
      have hpending : ∀ table, (!(m :: ms).contains (.finished table)) =
          (!ms.contains (.finished table) && decide (.finished table ≠ m)) := by
        intro table
        simp [Bool.and_comm]
      rw [List.foldl_cons, ih, take_eq]
      simp only [List.append_assoc, hpart, List.filter_filter, hpending]

/-- All messages are taken when some table is pending before each of them. -/
theorem collect_eq_foldl
    (h : ∀ pre m post, ms = pre ++ m :: post →
      ∃ table ∈ a.pending, Message.finished table ∉ pre) :
    a.collect ms = (ms.foldl take a, []) := by
  induction ms generalizing a with
  | nil => rfl
  | cons m ms ih =>
      obtain ⟨table, htable, -⟩ := h [] m ms rfl
      have hpending : a.pending.isEmpty = false := by
        rw [Bool.eq_false_iff, ne_eq, List.isEmpty_iff]
        exact List.ne_nil_of_mem htable
      rw [collect, if_neg (by rw [hpending]; exact Bool.false_ne_true), List.foldl_cons]
      refine ih fun pre m' post hsplit => ?_
      obtain ⟨other, hother, hnot⟩ := h (m :: pre) m' post (by rw [hsplit]; rfl)
      have hne : Message.finished other ≠ m := fun heq => hnot (heq ▸ List.mem_cons_self ..)
      refine ⟨other, ?_, fun hmem => hnot (List.mem_cons_of_mem m hmem)⟩
      rw [take_eq]
      exact List.mem_filter.mpr ⟨hother, decide_eq_true hne⟩

/-- Every message is about one of the tables, and the last message of each table, and no other,
says that it is finished. -/
structure Finishes (tables : List String) (ms : List Message) : Prop where
  table_mem : ∀ m ∈ ms, m.table ∈ tables
  last : ∀ table ∈ tables, ∃ init,
    ms.filter (·.table == table) = init ++ [.finished table] ∧ .finished table ∉ init

/-- In front of a message of a table nothing says that the table is finished. -/
theorem Finishes.not_finished
    {tables : List String} {m : Message} {pre post : List Message}
    (h : Finishes tables ms) (hsplit : ms = pre ++ m :: post) :
    .finished m.table ∉ pre := by
  intro hmem
  have hm : m ∈ ms := hsplit ▸ List.mem_append_right pre (List.mem_cons_self ..)
  obtain ⟨init, hinit, hnot⟩ := h.last m.table (h.table_mem m hm)
  have hown : (m.table == m.table) = true := beq_self_eq_true _
  rw [hsplit, List.filter_append, List.filter_cons, if_pos hown] at hinit
  have hfront : .finished m.table ∈ pre.filter (·.table == m.table) :=
    List.mem_filter.mpr ⟨hmem, hown⟩
  generalize pre.filter (·.table == m.table) = front at hinit hfront
  generalize post.filter (·.table == m.table) = back at hinit
  -- What stands behind the front is not empty, so the front is part of `init`.
  have hdrop := congrArg List.dropLast hinit
  rw [List.dropLast_append_of_ne_nil (List.cons_ne_nil m back), List.dropLast_concat] at hdrop
  exact hnot (hdrop ▸ List.mem_append_left _ hfront)

/-- The aggregation takes all messages, and then no table is pending. -/
theorem collect_of_finishes {tables : List String} (h : Finishes tables ms) :
    Account.collect { pending := tables } ms =
      ({ artifacts := ms.filterMap Message.record?
         diagnostics := ms.filterMap Message.diagnostic?
         cut := ms.filterMap Message.cut?
         pending := [] }, []) := by
  have hall : tables.filter (fun table => !ms.contains (.finished table)) = [] := by
    rw [List.filter_eq_nil_iff]
    intro table htable
    obtain ⟨init, hinit, -⟩ := h.last table htable
    have hmem : .finished table ∈ ms.filter (·.table == table) :=
      hinit ▸ List.mem_append_right init (List.mem_singleton_self _)
    simpa using (List.mem_filter.mp hmem).1
  rw [collect_eq_foldl, foldl_take, hall]
  · rfl
  · intro pre m post hsplit
    have hm : m ∈ ms := hsplit ▸ List.mem_append_right pre (List.mem_cons_self ..)
    exact ⟨m.table, h.table_mem m hm, h.not_finished hsplit⟩

end Account
end Run
end TableCast
