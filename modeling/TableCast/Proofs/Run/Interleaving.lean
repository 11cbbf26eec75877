import TableCast.Proofs.Run.Accounts

/-!
# Interleaved workers

The workers of a run take turns in any way, so their messages come in any order that keeps the
order of each worker.  The aggregation takes all of them, and sorting takes away what the turns
left: elements that compare equal belong to one table, and their order is that of its worker.

**Results.**
* `Interleave.filter_owner`: what an interleaving has of one worker is all that it reports.
* `finishes_of_interleave`: the aggregation of an interleaving takes all messages.
* `interleavings_agree`: all interleavings give one result.
-/

namespace TableCast
namespace Run

open Emit Model Reordering

section Interleave

variable {α : Type}

/-- A list of elements that are taken one by one from the fronts of queues until these are
empty. -/
inductive Interleave : List (List α) → List α → Prop
  | done {queues : List (List α)} (h : ∀ q ∈ queues, q = []) : Interleave queues []
  | next {queues : List (List α)} {k : Nat} {m : α} {rest ms : List α}
      (hk : queues[k]? = some (m :: rest)) (h : Interleave (queues.set k rest) ms) :
      Interleave queues (m :: ms)

variable {queues : List (List α)} {ms : List α}

theorem perm_cons_flatten_set {m : α} {rest : List α} :
    ∀ {queues : List (List α)} {k : Nat}, queues[k]? = some (m :: rest) →
      queues.flatten.Perm (m :: (queues.set k rest).flatten)
  | [], k, h => nomatch h
  | q :: queues, 0, h => by
      obtain rfl := Option.some.inj h
      exact List.Perm.refl _
  | q :: queues, k + 1, h => by
      have ih := @perm_cons_flatten_set _ _ queues k h
      rw [List.flatten_cons, List.set_cons_succ, List.flatten_cons]
      exact (ih.append_left q).trans List.perm_middle

/-- An interleaving neither drops nor repeats an element. -/
theorem Interleave.perm (hi : Interleave queues ms) : ms.Perm queues.flatten := by
  induction hi with
  | done h =>
      rw [List.flatten_eq_nil_iff.mpr h]
  | next hk _ ih => exact (ih.cons _).trans (perm_cons_flatten_set hk).symm

/-- What an interleaving has of one owner is the queue of that owner. -/
theorem Interleave.filter_owner
    {κ : Type} [BEq κ] [LawfulBEq κ] {owner : α → κ} {names : List κ}
    (hi : Interleave queues ms) (hnames : names.Nodup)
    (howned : ∀ (k : Nat) (q : List α), queues[k]? = some q →
      ∀ m ∈ q, names[k]? = some (owner m))
    {k : Nat} {name : κ} (hk : names[k]? = some name) :
    ms.filter (owner · == name) = queues[k]?.getD [] := by
  induction hi with
  | @done queues h =>
      cases hq : queues[k]? with
      | none => rfl
      | some q =>
          rw [Option.getD_some, h q (List.mem_of_getElem? hq)]
          rfl
  | @next queues i m rest ms hi _ ih =>
      have hrest : ∀ (j : Nat) (q : List α), (queues.set i rest)[j]? = some q →
          ∀ m' ∈ q, names[j]? = some (owner m') := by
        intro j q hq m' hm'
        rw [List.getElem?_set] at hq
        split_ifs at hq with hij
        · subst hij
          obtain rfl := Option.some.inj hq
          exact howned i _ hi m' (List.mem_cons_of_mem m hm')
        · exact howned j q hq m' hm'
      have hm := howned i _ hi m (List.mem_cons_self ..)
      rw [List.filter_cons, ih hrest, List.getElem?_set]
      by_cases hik : i = k
      · subst hik
        have hlength := (List.getElem?_eq_some_iff.mp hi).1
        obtain rfl := Option.some.inj (hm.symm.trans hk)
        rw [if_pos (beq_self_eq_true _), if_pos rfl, if_pos hlength, hi]
        rfl
      · have hne : owner m ≠ name := by
          rintro rfl
          have hlength := (List.getElem?_eq_some_iff.mp hm).1
          exact hik ((List.getElem?_inj hlength hnames).mp (hm.trans hk.symm))
        rw [if_neg (by simpa using hne), if_neg hik]

theorem Interleave.nil_cons (hi : Interleave queues ms) : Interleave ([] :: queues) ms := by
  induction hi with
  | done h => exact .done (List.forall_mem_cons.mpr ⟨rfl, h⟩)
  | @next queues k m rest ms hk _ ih =>
      have hshift : ([] :: queues)[k + 1]? = some (m :: rest) := hk
      exact .next hshift ih

/-- Emptying one queue after the other is an interleaving. -/
theorem interleave_flatten : ∀ queues : List (List α), Interleave queues queues.flatten
  | [] => .done fun q hq => absurd hq List.not_mem_nil
  | q :: queues => by
      rw [List.flatten_cons]
      induction q with
      | nil => exact (interleave_flatten queues).nil_cons
      | cons m rest ih =>
          have hk : ((m :: rest) :: queues)[0]? = some (m :: rest) := rfl
          exact .next hk ih

end Interleave

/-- What the worker of a table reports when nothing stops it: what became of each artifact. -/
structure Report where
  table : String
  outcomes : List (ArtifactRecord × Option Diagnostic)

namespace Report

/-- The messages of a worker, of which the last says that nothing more comes. -/
def messages (r : Report) : List Message :=
  r.outcomes.map (fun o => .processed o.1 o.2) ++ [.finished r.table]

/-- A worker reports about its own table. -/
structure Owned (r : Report) : Prop where
  record : ∀ o ∈ r.outcomes, o.1.table = r.table
  diagnostic : ∀ o ∈ r.outcomes, ∀ d ∈ o.2, d.table = some r.table

theorem table_of_mem_messages {r : Report} (h : r.Owned) :
    ∀ m ∈ r.messages, m.table = r.table := by
  intro m hm
  rcases List.mem_append.mp hm with hm | hm
  · obtain ⟨o, ho, rfl⟩ := List.mem_map.mp hm
    exact h.record o ho
  · rw [List.mem_singleton.mp hm]
    rfl

theorem filterMap_record? (r : Report) :
    r.messages.filterMap Message.record? = r.outcomes.map (·.1) := by
  rw [messages, List.filterMap_append, List.filterMap_map]
  show r.outcomes.filterMap (fun o => some o.1) ++ [] = _
  rw [List.append_nil, List.filterMap_eq_map']

theorem filterMap_diagnostic? (r : Report) :
    r.messages.filterMap Message.diagnostic? = r.outcomes.filterMap (·.2) := by
  rw [messages, List.filterMap_append, List.filterMap_map]
  exact List.append_nil _

theorem filterMap_cut? (r : Report) : r.messages.filterMap Message.cut? = [] := by
  rw [messages, List.filterMap_append, List.filterMap_map]
  show r.outcomes.filterMap (fun _ => none) ++ [] = []
  rw [List.append_nil, List.filterMap_none]

theorem finished_not_mem_outcomes (r : Report) (table : String) :
    .finished table ∉ r.outcomes.map fun o => Message.processed o.1 o.2 := by
  intro hm
  obtain ⟨o, -, ho⟩ := List.mem_map.mp hm
  cases ho

end Report

section Reports

variable {reports : List Report} {ms : List Message}

/-- An interleaving has of each table the messages of its worker, in their order. -/
theorem filter_table_of_interleave
    (htables : (reports.map (·.table)).Nodup) (howned : ∀ r ∈ reports, r.Owned)
    (hi : Interleave (reports.map Report.messages) ms) {r : Report} (hr : r ∈ reports) :
    ms.filter (·.table == r.table) = r.messages := by
  have hqueues : ∀ (k : Nat) (q : List Message), (reports.map Report.messages)[k]? = some q →
      ∀ m ∈ q, (reports.map (·.table))[k]? = some m.table := by
    intro k q hq m hm
    rw [List.getElem?_map] at hq
    obtain ⟨r', hr', rfl⟩ := Option.map_eq_some_iff.mp hq
    rw [List.getElem?_map, hr', Option.map_some,
      Report.table_of_mem_messages (howned r' (List.mem_of_getElem? hr')) m hm]
  obtain ⟨k, hk⟩ := List.mem_iff_getElem?.mp hr
  have hname : (reports.map (·.table))[k]? = some r.table := by
    rw [List.getElem?_map, hk]
    rfl
  rw [hi.filter_owner htables hqueues hname, List.getElem?_map, hk]
  rfl

theorem exists_report_of_interleave (hi : Interleave (reports.map Report.messages) ms)
    {m : Message} (hm : m ∈ ms) : ∃ r ∈ reports, m ∈ r.messages := by
  obtain ⟨q, hq, hmq⟩ := List.mem_flatten.mp (hi.perm.mem_iff.mp hm)
  obtain ⟨r, hr, rfl⟩ := List.mem_map.mp hq
  exact ⟨r, hr, hmq⟩

theorem table_mem_of_interleave
    (howned : ∀ r ∈ reports, r.Owned) (hi : Interleave (reports.map Report.messages) ms) :
    ∀ m ∈ ms, m.table ∈ reports.map (·.table) := by
  intro m hm
  obtain ⟨r, hr, hmr⟩ := exists_report_of_interleave hi hm
  rw [Report.table_of_mem_messages (howned r hr) m hmr]
  exact List.mem_map_of_mem hr

/-- In every interleaving the last message of each table, and no other, finishes it. -/
theorem finishes_of_interleave
    (htables : (reports.map (·.table)).Nodup) (howned : ∀ r ∈ reports, r.Owned)
    (hi : Interleave (reports.map Report.messages) ms) :
    Account.Finishes (reports.map (·.table)) ms := by
  refine ⟨table_mem_of_interleave howned hi, fun table htable => ?_⟩
  obtain ⟨r, hr, rfl⟩ := List.mem_map.mp htable
  exact ⟨_, filter_table_of_interleave htables howned hi hr, r.finished_not_mem_outcomes r.table⟩

/-- What an interleaving brings of any sort is what the workers report of that sort. -/
theorem filterMap_of_interleave {β : Type} (f : Message → Option β)
    (hi : Interleave (reports.map Report.messages) ms) :
    (ms.filterMap f).Perm (reports.flatMap fun r => r.messages.filterMap f) := by
  have hperm := hi.perm.filterMap f
  rwa [← List.flatMap_def, List.filterMap_flatMap] at hperm

theorem records_of_interleave (hi : Interleave (reports.map Report.messages) ms) :
    (ms.filterMap Message.record?).Perm (reports.flatMap fun r => r.outcomes.map (·.1)) := by
  simpa only [Report.filterMap_record?] using filterMap_of_interleave Message.record? hi

theorem diagnostics_of_interleave (hi : Interleave (reports.map Report.messages) ms) :
    (ms.filterMap Message.diagnostic?).Perm
      (reports.flatMap fun r => r.outcomes.filterMap (·.2)) := by
  simpa only [Report.filterMap_diagnostic?] using filterMap_of_interleave Message.diagnostic? hi

theorem cut_of_interleave (hi : Interleave (reports.map Report.messages) ms) :
    ms.filterMap Message.cut? = [] := by
  have hnone : (reports.flatMap fun r => r.messages.filterMap Message.cut?) = [] :=
    List.flatMap_eq_nil_iff.mpr fun r _ => r.filterMap_cut?
  exact (hnone ▸ filterMap_of_interleave Message.cut? hi).eq_nil

end Reports

section Sorting

instance : Std.TransCmp compareRecords := by
  unfold compareRecords
  infer_instance

instance : Std.TransCmp compareDiagnostics := by
  unfold compareDiagnostics
  infer_instance

theorem table_eq_of_compareRecords {r s : ArtifactRecord} (h : compareRecords r s = .eq) :
    r.table = s.table := by
  have htable := (compareLex_eq_eq.mp h).1
  exact Std.LawfulEqOrd.eq_of_compare htable

theorem table_eq_of_compareDiagnostics {c d : Diagnostic} (h : compareDiagnostics c d = .eq) :
    c.table.getD "" = d.table.getD "" := by
  have htable := (compareLex_eq_eq.mp h).1
  exact Std.LawfulEqOrd.eq_of_compare htable

end Sorting

section Results

variable {reports : List Report} {ms ms' : List Message}

/-- Two interleavings have the same messages of every table, in the same order. -/
theorem filter_table_eq_of_interleave
    (htables : (reports.map (·.table)).Nodup) (howned : ∀ r ∈ reports, r.Owned)
    (hi : Interleave (reports.map Report.messages) ms)
    (hi' : Interleave (reports.map Report.messages) ms') (table : String) :
    ms.filter (·.table == table) = ms'.filter (·.table == table) := by
  by_cases htable : table ∈ reports.map (·.table)
  · obtain ⟨r, hr, rfl⟩ := List.mem_map.mp htable
    rw [filter_table_of_interleave htables howned hi hr,
      filter_table_of_interleave htables howned hi' hr]
  · have hnone : ∀ {us : List Message}, Interleave (reports.map Report.messages) us →
        us.filter (·.table == table) = [] := by
      intro us hu
      rw [List.filter_eq_nil_iff]
      intro m hm hmt
      exact htable (beq_iff_eq.mp hmt ▸ table_mem_of_interleave howned hu m hm)
    rw [hnone hi, hnone hi']

/-- Records of one place in the order belong to one table. -/
theorem mergeSort_records_of_interleave
    (htables : (reports.map (·.table)).Nodup) (howned : ∀ r ∈ reports, r.Owned)
    (hi : Interleave (reports.map Report.messages) ms)
    (hi' : Interleave (reports.map Report.messages) ms') :
    (ms.filterMap Message.record?).mergeSort (fun r s => (compareRecords r s).isLE) =
      (ms'.filterMap Message.record?).mergeSort fun r s => (compareRecords r s).isLE := by
  refine mergeSort_eq_of_parts fun record => ?_
  have hsplit : ∀ us : List Message,
      (us.filterMap Message.record?).filter (fun s => compareRecords record s == .eq) =
        ((us.filter (·.table == record.table)).filterMap Message.record?).filter
          fun s => compareRecords record s == .eq := by
    intro us
    refine filter_filterMap_of_imp fun m _ s hs heq => ?_
    rw [Message.table_of_record? hs, table_eq_of_compareRecords (beq_iff_eq.mp heq)]
    exact beq_self_eq_true _
  rw [hsplit ms, filter_table_eq_of_interleave htables howned hi hi', ← hsplit ms']

theorem diagnostic_of_interleave
    (howned : ∀ r ∈ reports, r.Owned) (hi : Interleave (reports.map Report.messages) ms) :
    ∀ m ∈ ms, ∀ d, m.diagnostic? = some d → d.table = some m.table := by
  intro m hm d hd
  obtain ⟨r, hr, hmr⟩ := exists_report_of_interleave hi hm
  rw [Report.table_of_mem_messages (howned r hr) m hmr]
  rcases List.mem_append.mp hmr with hmr | hmr
  · obtain ⟨o, ho, rfl⟩ := List.mem_map.mp hmr
    exact (howned r hr).diagnostic o ho d hd
  · rw [List.mem_singleton.mp hmr] at hd
    cases hd

/-- So do diagnostics, behind those that were noted before. -/
theorem mergeSort_diagnostics_of_interleave
    (htables : (reports.map (·.table)).Nodup) (howned : ∀ r ∈ reports, r.Owned)
    (hi : Interleave (reports.map Report.messages) ms)
    (hi' : Interleave (reports.map Report.messages) ms') (noted : List Diagnostic) :
    (noted ++ ms.filterMap Message.diagnostic?).mergeSort
        (fun c d => (compareDiagnostics c d).isLE) =
      (noted ++ ms'.filterMap Message.diagnostic?).mergeSort
        fun c d => (compareDiagnostics c d).isLE := by
  refine mergeSort_eq_of_parts fun c => ?_
  have hsplit : ∀ {us : List Message}, Interleave (reports.map Report.messages) us →
      (us.filterMap Message.diagnostic?).filter (fun d => compareDiagnostics c d == .eq) =
        ((us.filter (·.table == c.table.getD "")).filterMap Message.diagnostic?).filter
          fun d => compareDiagnostics c d == .eq := by
    intro us hu
    refine filter_filterMap_of_imp fun m hm d hd heq => ?_
    rw [table_eq_of_compareDiagnostics (beq_iff_eq.mp heq),
      diagnostic_of_interleave howned hu m hm d hd]
    exact beq_self_eq_true _
  rw [List.filter_append, List.filter_append, hsplit hi,
    filter_table_eq_of_interleave htables howned hi hi', ← hsplit hi']

/-- Whatever turns the workers take, the aggregation takes exactly their messages and comes to
one result, which has every record and every diagnostic that they reported. -/
theorem interleavings_agree
    (htables : (reports.map (·.table)).Nodup) (howned : ∀ r ∈ reports, r.Owned)
    (noted : List Diagnostic) (excluded : List (String × String)) :
    ∃ result : Result, ∀ ms, Interleave (reports.map Report.messages) ms →
      ∃ account,
        Account.collect { pending := reports.map (·.table) } ms = (account, []) ∧
        account.pending = [] ∧
        ({ account with diagnostics := noted ++ account.diagnostics } : Account).result
          (reports.map (·.table)) excluded false = result ∧
        result.artifacts.Perm (reports.flatMap fun r => r.outcomes.map (·.1)) ∧
        result.diagnostics.Perm
          (noted ++ reports.flatMap fun r => r.outcomes.filterMap (·.2)) := by
  have hfirst := interleave_flatten (reports.map Report.messages)
  refine ⟨({ (Account.collect { pending := reports.map (·.table) }
    (reports.map Report.messages).flatten).1 with
      diagnostics := noted ++ (reports.map Report.messages).flatten.filterMap
        Message.diagnostic? } : Account).result
      (reports.map (·.table)) excluded false, fun ms hi => ?_⟩
  refine ⟨_, Account.collect_of_finishes (finishes_of_interleave htables howned hi), rfl, ?_, ?_, ?_⟩
  · rw [Account.collect_of_finishes (finishes_of_interleave htables howned hfirst)]
    simp only [Account.result, cut_of_interleave hi, cut_of_interleave hfirst,
      mergeSort_records_of_interleave htables howned hi hfirst,
      mergeSort_diagnostics_of_interleave htables howned hi hfirst noted]
    rfl
  · rw [Account.collect_of_finishes (finishes_of_interleave htables howned hfirst)]
    exact (List.mergeSort_perm _ _).trans (records_of_interleave hfirst)
  · exact (List.mergeSort_perm _ _).trans ((diagnostics_of_interleave hfirst).append_left noted)

/-- A table with one artifact that could not be written. -/
def broken : Report :=
  { table := "a"
    outcomes := [({ kind := .entity, name := "A", path := "A.py", status := .error, table := "a" },
      some { table := some "a", severity := .error, code := "file_write_error", message := "full" })] }

/-- A table with one artifact that was written. -/
def sound : Report :=
  { table := "b"
    outcomes := [({ kind := .entity, name := "B", path := "B.py", status := .written, table := "b" },
      none)] }

/-- The messages of two workers, with the turns taken in two ways: the result is the same. -/
theorem turns_of_broken_and_sound :
    ∃ ms ms' : List Message, ms ≠ ms' ∧
      Interleave ([broken, sound].map Report.messages) ms ∧
      Interleave ([broken, sound].map Report.messages) ms' ∧
      (Account.collect { pending := ["a", "b"] } ms).1.result ["a", "b"] [] false =
        (Account.collect { pending := ["a", "b"] } ms').1.result ["a", "b"] [] false := by
  have howned : ∀ r ∈ [broken, sound], r.Owned := by
    intro r hr
    rcases List.mem_pair.mp hr with rfl | rfl
    · exact ⟨by decide, by decide⟩
    · exact ⟨by decide, by decide⟩
  obtain ⟨result, hagree⟩ :=
    @interleavings_agree [broken, sound] (by decide) howned [] []
  have hfirst := interleave_flatten ([broken, sound].map Report.messages)
  have hsecond : Interleave ([broken, sound].map Report.messages)
      (sound.messages ++ broken.messages) := by
    refine .next (k := 1) rfl (.next (k := 1) rfl (.next (k := 0) rfl (.next (k := 0) rfl ?_)))
    exact .done (by decide)
  obtain ⟨account, hcollect, -, hresult, -⟩ := hagree _ hfirst
  obtain ⟨account', hcollect', -, hresult', -⟩ := hagree _ hsecond
  refine ⟨_, _, by decide, hfirst, hsecond, ?_⟩
  exact (congrArg (fun p => p.1.result ["a", "b"] [] false) hcollect).trans
    ((hresult.trans hresult'.symm).trans
      (congrArg (fun p => p.1.result ["a", "b"] [] false) hcollect').symm)

end Results

end Run
end TableCast
