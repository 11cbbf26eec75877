/-!
# Membership in a set of code points given by its boundaries

A set of natural numbers is written as the increasing array of the numbers at
which membership changes, starting from "outside".  A number belongs to the set
exactly when an odd number of boundaries are at most it.

- `Ranges.rank`: how many boundaries are at most a number.
- `Ranges.contains`: membership.
-/

namespace TableCast
namespace Text
namespace Ranges

/-- The number of entries of an increasing array that are at most `x`, found by
bisection between `lo` and `hi`. -/
def rankBetween (bounds : Array Nat) (x lo hi : Nat) : Nat :=
  if h : lo < hi then
    let mid := (lo + hi) / 2
    if bounds[mid]! ≤ x then rankBetween bounds x (mid + 1) hi
    else rankBetween bounds x lo mid
  else lo
termination_by hi - lo

/-- The number of entries of an increasing array that are at most `x`. -/
def rank (bounds : Array Nat) (x : Nat) : Nat :=
  rankBetween bounds x 0 bounds.size

/-- Membership of `x` in the set with the given boundaries. -/
def contains (bounds : Array Nat) (x : Nat) : Bool :=
  rank bounds x % 2 == 1

/-- The start of the block that `x` belongs to. -/
def blockStart (bounds : Array Nat) (x : Nat) : Nat :=
  bounds[rank bounds x - 1]!

end Ranges
end Text
end TableCast
