import TableCast.Name.Scope
import TableCast.Proofs.Reordering

/-!
# Names in increasing order

The names of a run are taken in increasing order, each once.  The list that results is
strictly increasing, so it is determined by its members.

**Results.**
* `mem_sortedDistinct`: the members are those of the given names.
* `sortedDistinct_strict`: the list is strictly increasing.
* `sortedDistinct_congr`: two lists with the same members give the same list.
-/

namespace TableCast
namespace Name
namespace Scope

open Reordering

theorem mem_sortedDistinct {names : List String} {name : String} :
    name ∈ sortedDistinct names ↔ name ∈ names := by
  rw [sortedDistinct, List.mem_eraseDups, List.mem_mergeSort]

/-- The order of names as a test, transitive and total. -/
theorem nameLe_trans (a b c : String) :
    decide (a ≤ b) = true → decide (b ≤ c) = true → decide (a ≤ c) = true := by
  simp only [decide_eq_true_eq]
  exact le_trans

theorem nameLe_total (a b : String) : (decide (a ≤ b) || decide (b ≤ a)) = true := by
  rw [Bool.or_eq_true, decide_eq_true_eq, decide_eq_true_eq]
  exact le_total a b

theorem nodup_sortedDistinct (names : List String) : (sortedDistinct names).Nodup :=
  nodup_eraseDups _

/-- Each name stands before the greater ones. -/
theorem sortedDistinct_strict (names : List String) :
    (sortedDistinct names).Pairwise (· < ·) := by
  have hle : (sortedDistinct names).Pairwise (· ≤ ·) := by
    have hsorted := List.pairwise_mergeSort nameLe_trans nameLe_total names
    exact (hsorted.imp (of_decide_eq_true)).sublist (eraseDups_sublist _)
  exact hle.imp₂ (fun _ _ h hne => lt_of_le_of_ne h hne) (nodup_sortedDistinct names)

/-- The members determine the list. -/
theorem sortedDistinct_congr
    {xs ys : List String}
    (h : ∀ name, name ∈ xs ↔ name ∈ ys) :
    sortedDistinct xs = sortedDistinct ys := by
  have hmem : ∀ name, name ∈ sortedDistinct xs ↔ name ∈ sortedDistinct ys := by
    intro name
    rw [mem_sortedDistinct, mem_sortedDistinct, h]
  have hperm : (sortedDistinct xs).Perm (sortedDistinct ys) :=
    (List.perm_ext_iff_of_nodup (nodup_sortedDistinct xs) (nodup_sortedDistinct ys)).mpr hmem
  refine hperm.eq_of_pairwise ?_ (sortedDistinct_strict xs) (sortedDistinct_strict ys)
  intro a b _ _ hab hba
  exact absurd hab (lt_asymm hba)

end Scope
end Name
end TableCast
