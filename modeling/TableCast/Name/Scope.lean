import TableCast.Name.Words

/-!
# Scopes of unique names

A scope is a set of names that must stay unique, such as the members of a class or
the types of a run.  Names are given out one at a time from a list of candidates, or
in batches, so that the outcome does not depend on the order of the batch.

- `Scope.claim?`: the first free candidate, else the first one numbered.
- `Scope.assign`: names for a batch of raw names with their base names.
-/

namespace TableCast
namespace Name

open Text

/-- A set of names that must stay unique. -/
structure Scope where
  taken : List String := []
deriving Repr, DecidableEq, Inhabited

namespace Scope

/-- Whether a name is taken. -/
def has (scope : Scope) (name : String) : Bool :=
  scope.taken.contains name

/-- The scope with a name taken. -/
def reserve (scope : Scope) (name : String) : Scope :=
  if scope.has name then scope else { taken := scope.taken ++ [name] }

/-- The base followed by a number. -/
def numberedName (base : String) (k : Nat) : String :=
  base ++ toString k

/-- The base followed by the first number from `k` on that makes a free name; the first
argument bounds the search. -/
def numberedFrom (scope : Scope) (base : String) : Nat → Nat → String
  | 0, k => numberedName base k
  | fuel + 1, k =>
    if scope.has (numberedName base k) then numberedFrom scope base fuel (k + 1)
    else numberedName base k

/-- The base followed by the first number from 2 on that makes a free name.  Among one
more candidates than there are taken names one is free. -/
def numbered (scope : Scope) (base : String) : String :=
  numberedFrom scope base scope.taken.length 2

/-- The first free candidate, else the first candidate numbered, taken from the scope;
none when there is no candidate. -/
def claim? (scope : Scope) (candidates : List String) : Option (String × Scope) :=
  match candidates with
  | [] => none
  | first :: _ =>
    let name := match candidates.find? (fun c => !scope.has c) with
      | some free => free
      | none => scope.numbered first
    some (name, scope.reserve name)

/-- The texts in increasing order, each once. -/
def sortedDistinct (names : List String) : List String :=
  (names.mergeSort (fun a b => decide (a ≤ b))).eraseDups

/-- The raw names that come with a base, the one equal to the base first, the others in
increasing order, each once. -/
def membersOf (batch : List (String × String)) (base : String) : List String :=
  let raws := sortedDistinct ((batch.filter (·.2 == base)).map (·.1))
  raws.filter (· == base) ++ raws.filter (· != base)

/-- A name put into a map from raw names, in the place of an earlier one. -/
def setName (raw name : String) : List (String × String) → List (String × String)
  | [] => [(raw, name)]
  | (r, n) :: rest => if r == raw then (r, name) :: rest else (r, n) :: setName raw name rest

/-- The state of a batch assignment: the scope, the names given so far and the raw
names that did not get their base. -/
structure Batch where
  scope : Scope
  assigned : List (String × String) := []
  /-- Base and raw name of those that still need a name. -/
  losers : List (String × String) := []
deriving Repr, Inhabited

/-- One base settled: its first member gets it if it is free. -/
def settleBase (batch : List (String × String)) (state : Batch) (base : String) : Batch :=
  match membersOf batch base with
  | [] => state
  | winner :: rest =>
    if state.scope.has base then
      { state with losers := state.losers ++ (winner :: rest).map (base, ·) }
    else
      { scope := state.scope.reserve base
        assigned := setName winner base state.assigned
        losers := state.losers ++ rest.map (base, ·) }

/-- The name of a raw name that did not get its base: the base with the raw name behind
it, else the base numbered. -/
def derivedName (scope : Scope) (base raw : String) : String :=
  let suffix := sanitized raw
  let candidate := if suffix.isEmpty then base else base ++ "_" ++ suffix
  if scope.has candidate then scope.numbered base else candidate

/-- One raw name that did not get its base settled. -/
def settleLoser (state : Batch) (loser : String × String) : Batch :=
  let name := derivedName state.scope loser.1 loser.2
  { state with
    scope := state.scope.reserve name
    assigned := setName loser.2 name state.assigned }

/-- The order of losers: by base, then by raw name. -/
def loserLe (a b : String × String) : Bool :=
  a.1 < b.1 || (a.1 == b.1 && decide (a.2 ≤ b.2))

/-- Names for a batch of raw names with their base names, and the scope with these
names taken.  All bases are settled before any derived name. -/
def assign (scope : Scope) (batch : List (String × String)) :
    List (String × String) × Scope :=
  let bases := sortedDistinct (batch.map (·.2))
  let settled := bases.foldl (settleBase batch) { scope := scope }
  let done := (settled.losers.mergeSort loserLe).foldl settleLoser settled
  (done.assigned, done.scope)

end Scope

/-- The name that a map gives to a raw name. -/
def lookup? (names : List (String × String)) (raw : String) : Option String :=
  (names.find? (·.1 == raw)).map (·.2)

end Name
end TableCast
