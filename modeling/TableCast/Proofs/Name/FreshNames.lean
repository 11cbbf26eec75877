import Mathlib
import TableCast.Name.Scope

/-!
# Names that a scope gives out once

A scope gives out a candidate, or a candidate with a number behind it.  Either way the name
was free before.

**Numbering.**  The search for a free number is bounded by the number of taken names.  The
names it passes are taken and pairwise distinct, so it cannot pass all of them.

**Results.**
* `numbered_least`: the numbered name carries the least number from 2 on that is free.
* `numbered_not_mem`: so the numbered name is free.
* `claim?_fresh`: a claim gives a new name and takes it.
-/

namespace TableCast
namespace Name
namespace Scope

section Numbering

theorem has_eq_true_iff {scope : Scope} {name : String} :
    scope.has name = true ↔ name ∈ scope.taken := by
  simp [has]

theorem reserve_of_not_mem
    {scope : Scope} {name : String}
    (h : name ∉ scope.taken) :
    scope.reserve name = { taken := scope.taken ++ [name] } := by
  have hhas : ¬ scope.has name = true := fun hh => h (has_eq_true_iff.mp hh)
  rw [reserve, if_neg hhas]

/-- A base with different numbers behind it gives different names. -/
theorem numberedName_injective (base : String) :
    Function.Injective (numberedName base) := by
  intro i j h
  have hrepr : Nat.repr i = Nat.repr j := by
    apply String.toList_injective
    have hlist := congrArg String.toList h
    simpa [numberedName, String.toList_append, ToString.toString] using hlist
  exact Nat.repr_injective hrepr

/-- The search passes taken names only, and it stops at a free name or at its bound. -/
theorem numberedFrom_search
    (scope : Scope) (base : String) :
    ∀ fuel k : Nat,
      ∃ j, j ≤ fuel ∧
        numberedFrom scope base fuel k = numberedName base (k + j) ∧
        (∀ i, i < j → numberedName base (k + i) ∈ scope.taken) ∧
        (j = fuel ∨ numberedName base (k + j) ∉ scope.taken)
  | 0, k => ⟨0, le_rfl, rfl, fun i hi => absurd hi (by omega), Or.inl rfl⟩
  | fuel + 1, k => by
      by_cases hk : scope.has (numberedName base k) = true
      · obtain ⟨j, hj, heq, hpassed, hstop⟩ := numberedFrom_search scope base fuel (k + 1)
        have hshift : k + 1 + j = k + (j + 1) := by omega
        refine ⟨j + 1, by omega, ?_, ?_, ?_⟩
        · rw [numberedFrom, if_pos hk, heq, hshift]
        · intro i hi
          cases i with
          | zero => exact has_eq_true_iff.mp hk
          | succ i =>
              have hi' := hpassed i (by omega)
              rwa [show k + 1 + i = k + (i + 1) by omega] at hi'
        · rw [hshift] at hstop
          exact hstop.imp (by omega) id
      · refine ⟨0, by omega, ?_, fun i hi => absurd hi (by omega), Or.inr ?_⟩
        · rw [numberedFrom, if_neg hk]
          rfl
        · exact fun hmem => hk (has_eq_true_iff.mpr hmem)

/-- The numbered name carries the least number from 2 on that makes a free name. -/
theorem numbered_least (scope : Scope) (base : String) :
    ∃ k, 2 ≤ k ∧ scope.numbered base = numberedName base k ∧
      numberedName base k ∉ scope.taken ∧
      ∀ i, 2 ≤ i → i < k → numberedName base i ∈ scope.taken := by
  obtain ⟨j, hj, heq, hpassed, hstop⟩ :=
    numberedFrom_search scope base scope.taken.length 2
  refine ⟨2 + j, by omega, heq, ?_, ?_⟩
  · rcases hstop with hbound | hfree
    · -- All names up to the bound would be taken: one more than there are.
      intro hlast
      have hnodup : ((List.range (j + 1)).map fun i => numberedName base (2 + i)).Nodup :=
        List.nodup_range.map fun i l h => by
          have := numberedName_injective base h
          omega
      have hsub : ((List.range (j + 1)).map fun i => numberedName base (2 + i)) ⊆
          scope.taken := by
        intro name hname
        obtain ⟨i, hi, rfl⟩ := List.mem_map.mp hname
        rcases Nat.lt_succ_iff_lt_or_eq.mp (List.mem_range.mp hi) with hlt | rfl
        · exact hpassed i hlt
        · exact hlast
      have hlen := hnodup.length_le_of_subset hsub
      rw [List.length_map, List.length_range] at hlen
      omega
    · exact hfree
  · intro i hi hik
    have := hpassed (i - 2) (by omega)
    rwa [show 2 + (i - 2) = i by omega] at this

theorem numbered_not_mem (scope : Scope) (base : String) :
    scope.numbered base ∉ scope.taken := by
  obtain ⟨k, -, heq, hfree, -⟩ := numbered_least scope base
  rwa [heq]

end Numbering

/-- A claim with a candidate gives a name that was free and takes it. -/
theorem claim?_fresh
    (scope : Scope) {candidates : List String}
    (h : candidates ≠ []) :
    ∃ name, name ∉ scope.taken ∧
      scope.claim? candidates = some (name, { taken := scope.taken ++ [name] }) := by
  obtain ⟨first, rest, rfl⟩ := List.exists_cons_of_ne_nil h
  cases hfind : (first :: rest).find? (fun c => !scope.has c) with
  | some free =>
      have hfree : free ∉ scope.taken := by
        intro hmem
        have := List.find?_some hfind
        simp [has_eq_true_iff.mpr hmem] at this
      refine ⟨free, hfree, ?_⟩
      rw [claim?, hfind, ← reserve_of_not_mem hfree]
  | none =>
      have hfree := numbered_not_mem scope first
      refine ⟨scope.numbered first, hfree, ?_⟩
      rw [claim?, hfind, ← reserve_of_not_mem hfree]

end Scope
end Name
end TableCast
