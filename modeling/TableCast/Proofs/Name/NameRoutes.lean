import TableCast.Proofs.Name.BatchNames

/-!
# How a scope makes its names

A scope that gives out a name makes it from a candidate or from a base: it gives it as it is, or
it puts something behind it.

**Results.**
* `claim?_cases`, `claim?_route`: a claimed name is a candidate, or a candidate with a number.
* `derivedName_route`: a derived name is the base, the base with the raw name, or the base with a
  number.
* `route_of_mem_assign`: a name of a batch is a base of its raw name, or derived from one.
-/

namespace TableCast
namespace Name
namespace Scope

section Claims

variable {scope next : Scope} {candidates : List String} {name : String}

/-- A claimed name is a free candidate, or the first candidate numbered when none is free. -/
theorem claim?_cases
    (h : scope.claim? candidates = some (name, next)) :
    (name ∈ candidates ∧ name ∉ scope.taken) ∨
    ∃ first rest, candidates = first :: rest ∧ (∀ c ∈ candidates, c ∈ scope.taken) ∧
      name = scope.numbered first := by
  cases candidates with
  | nil => cases h
  | cons first rest =>
      have hname := congrArg Prod.fst (Option.some.inj h)
      dsimp only at hname
      split at hname
      · rename_i free hfind
        have hfree := List.find?_some hfind
        rw [Bool.not_eq_true', ← Bool.not_eq_true, has_eq_true_iff] at hfree
        exact Or.inl (hname ▸ ⟨List.mem_of_find?_eq_some hfind, hfree⟩)
      · rename_i hnone
        refine Or.inr ⟨first, rest, rfl, fun c hc => ?_, hname.symm⟩
        simpa [has_eq_true_iff] using List.find?_eq_none.mp hnone c hc

/-- The first candidate is claimed when it is free. -/
theorem claim?_of_free
    {first : String} {rest : List String} (hfree : first ∉ scope.taken)
    (h : scope.claim? (first :: rest) = some (name, next)) : name = first := by
  have hfind : (first :: rest).find? (fun c => !scope.has c) = some first :=
    List.find?_cons_of_pos (by simpa [has_eq_true_iff, ← Bool.not_eq_true] using hfree)
  have hname := congrArg Prod.fst (Option.some.inj h)
  rw [hfind] at hname
  exact hname.symm

/-- A claimed name is one of the candidates, or one of them with a number behind it. -/
theorem claim?_route
    (h : scope.claim? candidates = some (name, next)) :
    name ∈ candidates ∨ ∃ first ∈ candidates, ∃ k, name = numberedName first k := by
  rcases claim?_cases h with ⟨hmem, -⟩ | ⟨first, rest, rfl, -, hname⟩
  · exact Or.inl hmem
  · obtain ⟨k, -, hk, -⟩ := numbered_least scope first
    exact Or.inr ⟨first, List.mem_cons_self .., k, hname.trans hk⟩

/-- A derived name is the base, or the base with the raw name or with a number behind it. -/
theorem derivedName_route (scope : Scope) (base raw : String) :
    derivedName scope base raw = base ∨
    derivedName scope base raw = base ++ "_" ++ sanitized raw ∨
    ∃ k, derivedName scope base raw = numberedName base k := by
  obtain ⟨k, -, hk, -⟩ := numbered_least scope base
  rw [derivedName]
  split_ifs
  · exact Or.inr (Or.inr ⟨k, hk⟩)
  · exact Or.inl rfl
  · exact Or.inr (Or.inr ⟨k, hk⟩)
  · exact Or.inr (Or.inl rfl)

end Claims

section Batches

variable {batch names : List (String × String)} {state : Batch} {raw name base : String}

/-- A name that a raw name of a batch may get: one of its bases, or a name derived from one. -/
def Route (batch : List (String × String)) (raw name : String) : Prop :=
  ∃ base, (raw, base) ∈ batch ∧ (name = base ∨ ∃ scope, name = derivedName scope base raw)

/-- Every name of a map has a route. -/
def Routed (batch names : List (String × String)) : Prop :=
  ∀ raw name, (raw, name) ∈ names → Route batch raw name

theorem Routed.set (h : Routed batch names) (hroute : Route batch raw name) :
    Routed batch (setName raw name names) := by
  intro r n hmem
  rcases mem_setName hmem with heq | hold
  · obtain ⟨rfl, rfl⟩ := Prod.mk.inj heq
    exact hroute
  · exact h r n hold

theorem Routed.settleBase (h : Routed batch state.assigned) (base : String) :
    Routed batch (settleBase batch state base).assigned := by
  rcases settleBase_cases batch state base with
    ⟨-, heq⟩ | ⟨-, heq⟩ | ⟨winner, rest, hmembers, -, heq⟩
  · rw [heq]
    exact h
  · rw [heq]
    exact h
  · have hwinner : (winner, base) ∈ batch := mem_membersOf.mp (hmembers ▸ List.mem_cons_self ..)
    rw [heq]
    exact h.set ⟨base, hwinner, Or.inl rfl⟩

theorem Routed.settleLoser (h : Routed batch state.assigned) (hpair : (raw, base) ∈ batch) :
    Routed batch (settleLoser state (base, raw)).assigned :=
  h.set ⟨base, hpair, Or.inr ⟨state.scope, rfl⟩⟩

theorem routed_firstPass (bases : List String) (h : Routed batch state.assigned) :
    Routed batch (bases.foldl (Scope.settleBase batch) state).assigned := by
  induction bases generalizing state with
  | nil => exact h
  | cons base bases ih => exact ih (h.settleBase base)

theorem routed_secondPass (losers : List (String × String))
    (hlosers : ∀ base raw, (base, raw) ∈ losers → (raw, base) ∈ batch)
    (h : Routed batch state.assigned) :
    Routed batch (losers.foldl Scope.settleLoser state).assigned := by
  induction losers generalizing state with
  | nil => exact h
  | cons loser losers ih =>
      have hpair := hlosers loser.1 loser.2 (List.mem_cons_self ..)
      exact ih (fun base raw hmem => hlosers base raw (List.mem_cons_of_mem _ hmem))
        (h.settleLoser hpair)

/-- A name of a batch is a base of its raw name, or derived from one. -/
theorem route_of_mem_assign {scope : Scope} (h : (raw, name) ∈ (assign scope batch).1) :
    Route batch raw name := by
  obtain ⟨-, hpairs, -⟩ := firstPass_invariants scope batch (sortedDistinct (batch.map (·.2)))
  have hfirst : Routed batch
      ((sortedDistinct (batch.map (·.2))).foldl (Scope.settleBase batch)
        { scope := scope }).assigned :=
    routed_firstPass _ fun _ _ hmem => absurd hmem List.not_mem_nil
  refine routed_secondPass _ (fun base raw hmem => ?_) hfirst raw name h
  exact hpairs.losers base raw (List.mem_mergeSort.mp hmem)

/-- Every raw name of a batch gets a name by one of its routes. -/
theorem exists_route (scope : Scope) (h : raw ∈ keys batch) :
    ∃ name, lookup? (assign scope batch).1 raw = some name ∧ Route batch raw name := by
  obtain ⟨⟨r, base⟩, hpair, rfl⟩ := List.mem_map.mp h
  obtain ⟨hfresh, -, hnamed⟩ := settledBatch_invariants scope batch
  obtain ⟨name, hname⟩ := Option.isSome_iff_exists.mp (lookup?_isSome_iff.mpr (hnamed r base hpair))
  exact ⟨name, hname, route_of_mem_assign ((lookup?_eq_some_iff hfresh.keys).mp hname)⟩

end Batches

end Scope
end Name
end TableCast
