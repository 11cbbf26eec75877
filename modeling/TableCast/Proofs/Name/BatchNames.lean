import TableCast.Proofs.Name.FreshNames
import TableCast.Proofs.Name.SortedNames

/-!
# Names given out in a batch

A batch gives a name to every raw name.  In a first pass each base goes to one of its raw
names, in a second pass the others get a derived or numbered name.

**Invariants.**  `Batch.Fresh` says that the names given so far are pairwise distinct, new,
and taken, with one name for each raw name.  Both passes keep it because they only give
names that are free at that moment.  `Batch.FromPairs` says that names and waiting raw names
come from the pairs of the batch, and `Batch.Covers` that no raw name is dropped.

**Results.**
* `assign_fresh`: the names of a batch are new, taken and pairwise distinct.
* `lookup?_assign`: the name of a raw name extends one of its bases.
* `lookup?_assign_of_lone`: it is a base when no two raw names share one.
* `lookup?_assign_of_preferred`: it is the preferred one when all prefer different ones.
* `lookup?_assign_inj`, `nodup_map_assigned`: two raw names never get one name.
* `assign_congr`: only the pairs of a batch count, not their order.
-/

namespace TableCast
namespace Name

/-- The raw names that a map gives a name to. -/
def keys (names : List (String × String)) : List String := names.map (·.1)

/-- The names that a map gives. -/
def values (names : List (String × String)) : List String := names.map (·.2)

section Maps

@[simp] theorem keys_cons (entry : String × String) (names : List (String × String)) :
    keys (entry :: names) = entry.1 :: keys names := rfl

@[simp] theorem values_cons (entry : String × String) (names : List (String × String)) :
    values (entry :: names) = entry.2 :: values names := rfl

variable {names : List (String × String)} {raw name : String}

/-- A map with one name for each raw name gives the name of its entry. -/
theorem lookup?_eq_some_iff
    (h : (keys names).Nodup) :
    lookup? names raw = some name ↔ (raw, name) ∈ names := by
  induction names with
  | nil => simp [lookup?]
  | cons entry names ih =>
      obtain ⟨r, n⟩ := entry
      obtain ⟨hr, hrest⟩ := List.nodup_cons.mp h
      have ih := ih hrest
      rw [lookup?] at ih ⊢
      by_cases hraw : r = raw
      · subst hraw
        have hnot : (r, name) ∉ names := fun hmem =>
          hr (List.mem_map.mpr ⟨(r, name), hmem, rfl⟩)
        simp [hnot, eq_comm]
      · have hraw' : ¬ raw = r := fun he => hraw he.symm
        simp [hraw, hraw', ih]

theorem lookup?_cons (r n : String) :
    lookup? ((r, n) :: names) raw = if r = raw then some n else lookup? names raw := by
  by_cases hr : r = raw <;> simp [lookup?, hr]

theorem lookup?_isSome_iff :
    (lookup? names raw).isSome ↔ raw ∈ keys names := by
  simp [lookup?, keys]

namespace Scope

/-- Putting a name into a map adds its raw name at the end or keeps all raw names. -/
theorem keys_setName (raw name : String) :
    ∀ names : List (String × String),
      keys (setName raw name names) =
        if raw ∈ keys names then keys names else keys names ++ [raw]
  | [] => rfl
  | (r, n) :: rest => by
      by_cases hr : r = raw
      · have hset : setName raw name ((r, n) :: rest) = (r, name) :: rest := by
          simp [setName, hr]
        rw [hset, keys_cons, keys_cons, if_pos (by simp [hr])]
      · have hset : setName raw name ((r, n) :: rest) = (r, n) :: setName raw name rest := by
          simp [setName, hr]
        have hmem : raw ∈ r :: keys rest ↔ raw ∈ keys rest := by
          simp [show raw ≠ r from fun he => hr he.symm]
        rw [hset, keys_cons, keys_cons, keys_setName raw name rest]
        simp only [hmem]
        split_ifs
        · rfl
        · rfl

theorem mem_keys_setName :
    raw ∈ keys (setName raw name names) := by
  rw [keys_setName]
  split_ifs with h
  · exact h
  · simp

theorem keys_subset_setName :
    keys names ⊆ keys (setName raw name names) := by
  rw [keys_setName]
  split_ifs
  · exact List.Subset.refl _
  · exact List.subset_append_left _ _

theorem nodup_keys_setName
    (h : (keys names).Nodup) :
    (keys (setName raw name names)).Nodup := by
  rw [keys_setName]
  split_ifs with hmem
  · exact h
  · rw [← List.concat_eq_append]
    exact List.Nodup.concat hmem h

/-- An entry of the new map is the new one or one of the old map. -/
theorem mem_setName
    {entry : String × String}
    (h : entry ∈ setName raw name names) :
    entry = (raw, name) ∨ entry ∈ names := by
  induction names with
  | nil =>
      left
      simpa [setName] using h
  | cons first rest ih =>
      obtain ⟨r, n⟩ := first
      rw [setName] at h
      split_ifs at h with hr
      · rcases List.mem_cons.mp h with rfl | h
        · left
          rw [beq_iff_eq.mp hr]
        · exact Or.inr (List.mem_cons_of_mem _ h)
      · rcases List.mem_cons.mp h with rfl | h
        · exact Or.inr (List.mem_cons_self ..)
        · exact (ih h).imp_right (List.mem_cons_of_mem _)

/-- The name that was put is found, and the other raw names keep theirs. -/
theorem lookup?_setName (raw name other : String) (names : List (String × String)) :
    lookup? (setName raw name names) other =
      if raw = other then some name else lookup? names other := by
  induction names with
  | nil => rw [setName, lookup?_cons]
  | cons first rest ih =>
      obtain ⟨r, n⟩ := first
      rw [setName]
      by_cases hr : r = raw
      · subst hr
        rw [if_pos (beq_self_eq_true r), lookup?_cons, lookup?_cons]
        split_ifs
        · rfl
        · rfl
      · rw [if_neg fun heq => hr (beq_iff_eq.mp heq), lookup?_cons, lookup?_cons, ih]
        split_ifs with hother hraw
        · exact absurd (hother.trans hraw.symm) hr
        · rfl
        · rfl
        · rfl

/-- A name that the map does not give yet leaves the names distinct. -/
theorem nodup_values_setName
    (h : (values names).Nodup) (hname : name ∉ values names) :
    (values (setName raw name names)).Nodup := by
  induction names with
  | nil => simp [setName, values]
  | cons first rest ih =>
      obtain ⟨r, n⟩ := first
      obtain ⟨hn, hrest⟩ := List.nodup_cons.mp h
      have hnew : name ≠ n ∧ name ∉ values rest := by
        simpa [values, not_or] using hname
      rw [setName]
      split_ifs with hr
      · exact List.nodup_cons.mpr ⟨hnew.2, hrest⟩
      · refine List.nodup_cons.mpr ⟨?_, ih hrest hnew.2⟩
        intro hmem
        obtain ⟨entry, hentry, hvalue⟩ := List.mem_map.mp hmem
        rcases mem_setName hentry with rfl | hold
        · exact hnew.1 hvalue
        · exact hn (List.mem_map.mpr ⟨entry, hold, hvalue⟩)

end Scope
end Maps

namespace Scope

section Invariants

variable {start : Scope} {batch : List (String × String)} {state : Batch}
variable {base raw name : String}

/-- The names given so far are pairwise distinct, new and taken, one for each raw name. -/
structure Batch.Fresh (start : Scope) (state : Batch) : Prop where
  /-- A raw name has one name. -/
  keys : (keys state.assigned).Nodup
  /-- Two raw names have two names. -/
  values : (values state.assigned).Nodup
  /-- Every name given is taken now. -/
  taken : ∀ name ∈ Name.values state.assigned, name ∈ state.scope.taken
  /-- No name given was taken before. -/
  new : ∀ name ∈ Name.values state.assigned, name ∉ start.taken
  /-- The scope loses no name. -/
  grows : start.taken ⊆ state.scope.taken

/-- Names and waiting raw names come from the pairs of the batch. -/
structure Batch.FromPairs (batch : List (String × String)) (state : Batch) : Prop where
  /-- A name extends a base of its raw name. -/
  assigned : ∀ raw name, (raw, name) ∈ state.assigned →
    ∃ base rest, (raw, base) ∈ batch ∧ name = base ++ rest
  /-- A waiting raw name waits with one of its bases. -/
  losers : ∀ base raw, (base, raw) ∈ state.losers → (raw, base) ∈ batch

/-- Every pair with one of the bases has its raw name named or waiting. -/
def Batch.Covers (batch : List (String × String)) (bases : List String) (state : Batch) : Prop :=
  ∀ raw base, (raw, base) ∈ batch → base ∈ bases →
    raw ∈ keys state.assigned ∨ (base, raw) ∈ state.losers

theorem mem_membersOf : raw ∈ membersOf batch base ↔ (raw, base) ∈ batch := by
  have hmem : raw ∈ sortedDistinct ((batch.filter (·.2 == base)).map (·.1)) ↔
      (raw, base) ∈ batch := by
    simp [mem_sortedDistinct]
  rw [membersOf, List.mem_append, List.mem_filter, List.mem_filter, ← hmem]
  by_cases hraw : raw = base <;> simp [hraw]

theorem mem_reserve {scope : Scope} {other : String} :
    other ∈ (scope.reserve name).taken ↔ other ∈ scope.taken ∨ other = name := by
  by_cases h : name ∈ scope.taken
  · have hreserve : scope.reserve name = scope := by
      rw [reserve, if_pos (has_eq_true_iff.mpr h)]
    rw [hreserve]
    exact ⟨Or.inl, fun hor => hor.elim id (fun he => he ▸ h)⟩
  · rw [reserve_of_not_mem h, List.mem_append, List.mem_singleton]

/-- Giving a free name keeps the names distinct, new and taken. -/
theorem Batch.Fresh.give
    (h : state.Fresh start) (hfree : name ∉ state.scope.taken)
    (losers : List (String × String)) :
    Batch.Fresh start
      { scope := state.scope.reserve name
        assigned := setName raw name state.assigned
        losers := losers } := by
  have hsplit : ∀ other ∈ Name.values (setName raw name state.assigned),
      other = name ∨ other ∈ Name.values state.assigned := by
    intro other hother
    obtain ⟨entry, hentry, rfl⟩ := List.mem_map.mp hother
    rcases mem_setName hentry with rfl | hold
    · exact Or.inl rfl
    · exact Or.inr (List.mem_map_of_mem hold)
  refine ⟨nodup_keys_setName h.keys, ?_, ?_, ?_, ?_⟩
  · exact nodup_values_setName h.values (fun hmem => hfree (h.taken name hmem))
  · intro other hother
    rw [mem_reserve]
    exact (hsplit other hother).elim Or.inr (fun hold => Or.inl (h.taken other hold))
  · intro other hother
    rcases hsplit other hother with rfl | hold
    · exact fun hmem => hfree (h.grows hmem)
    · exact h.new other hold
  · intro other hother
    exact mem_reserve.mpr (Or.inl (h.grows hother))

/-- Giving a name that extends a base of the raw name keeps the source of names. -/
theorem Batch.FromPairs.give
    (h : state.FromPairs batch) (hpair : (raw, base) ∈ batch) {rest : String}
    (hname : name = base ++ rest) (scope : Scope)
    {losers : List (String × String)}
    (hlosers : ∀ b r, (b, r) ∈ losers → (b, r) ∈ state.losers ∨ (r, b) ∈ batch) :
    Batch.FromPairs batch
      { scope := scope
        assigned := setName raw name state.assigned
        losers := losers } := by
  refine ⟨?_, ?_⟩
  · intro r n hmem
    rcases mem_setName hmem with heq | hold
    · obtain ⟨rfl, rfl⟩ := Prod.mk.inj heq
      exact ⟨base, rest, hpair, hname⟩
    · exact h.assigned r n hold
  · intro b r hmem
    exact (hlosers b r hmem).elim (h.losers b r) id

end Invariants

section FirstPass

variable {start : Scope} {batch : List (String × String)} {state : Batch}

/-- What the settling of a base does: nothing, a base that was taken, or a base given. -/
theorem settleBase_cases (batch : List (String × String)) (state : Batch) (base : String) :
    (membersOf batch base = [] ∧ settleBase batch state base = state) ∨
    (base ∈ state.scope.taken ∧ settleBase batch state base =
      { state with losers := state.losers ++ (membersOf batch base).map (base, ·) }) ∨
    (∃ winner rest, membersOf batch base = winner :: rest ∧ base ∉ state.scope.taken ∧
      settleBase batch state base =
        { scope := state.scope.reserve base
          assigned := setName winner base state.assigned
          losers := state.losers ++ rest.map (base, ·) }) := by
  cases hmembers : membersOf batch base with
  | nil =>
      left
      exact ⟨rfl, by rw [settleBase, hmembers]⟩
  | cons winner rest =>
      right
      by_cases htaken : state.scope.has base = true
      · left
        exact ⟨has_eq_true_iff.mp htaken, by simp only [settleBase, hmembers, if_pos htaken]⟩
      · right
        refine ⟨winner, rest, rfl, fun hmem => htaken (has_eq_true_iff.mpr hmem), ?_⟩
        simp only [settleBase, hmembers, if_neg htaken]

theorem Batch.Fresh.settleBase
    (h : state.Fresh start) (base : String) :
    (settleBase batch state base).Fresh start := by
  rcases settleBase_cases batch state base with
    ⟨-, heq⟩ | ⟨-, heq⟩ | ⟨winner, rest, -, hfree, heq⟩
  · rw [heq]
    exact h
  · rw [heq]
    exact ⟨h.keys, h.values, h.taken, h.new, h.grows⟩
  · rw [heq]
    exact h.give hfree _

theorem Batch.FromPairs.settleBase
    (h : state.FromPairs batch) (base : String) :
    (settleBase batch state base).FromPairs batch := by
  have hwaits : ∀ (raws : List String), (∀ raw ∈ raws, raw ∈ membersOf batch base) →
      ∀ b r, (b, r) ∈ state.losers ++ raws.map (base, ·) →
        (b, r) ∈ state.losers ∨ (r, b) ∈ batch := by
    intro raws hraws b r hmem
    rcases List.mem_append.mp hmem with hold | hnew
    · exact Or.inl hold
    · obtain ⟨raw, hraw, heq⟩ := List.mem_map.mp hnew
      obtain ⟨rfl, rfl⟩ := Prod.mk.inj heq
      exact Or.inr (mem_membersOf.mp (hraws raw hraw))
  rcases settleBase_cases batch state base with
    ⟨-, heq⟩ | ⟨-, heq⟩ | ⟨winner, rest, hmembers, -, heq⟩
  · rw [heq]
    exact h
  · rw [heq]
    exact ⟨h.assigned, fun b r hmem =>
      (hwaits _ (fun _ hraw => hraw) b r hmem).elim (h.losers b r) id⟩
  · have hwinner : (winner, base) ∈ batch := mem_membersOf.mp (hmembers ▸ List.mem_cons_self ..)
    rw [heq]
    exact h.give hwinner (String.append_empty).symm _
      (hwaits rest fun raw hraw => hmembers ▸ List.mem_cons_of_mem _ hraw)

theorem Batch.Covers.settleBase
    {bases : List String} (h : state.Covers batch bases) (base : String) :
    (settleBase batch state base).Covers batch (bases ++ [base]) := by
  intro raw b hpair hb
  rcases settleBase_cases batch state base with
    ⟨hmembers, heq⟩ | ⟨-, heq⟩ | ⟨winner, rest, hmembers, -, heq⟩
  · rw [heq]
    rcases List.mem_append.mp hb with hold | hlast
    · exact h raw b hpair hold
    · obtain rfl := List.mem_singleton.mp hlast
      have hraw := mem_membersOf.mpr hpair
      rw [hmembers] at hraw
      exact absurd hraw List.not_mem_nil
  · rw [heq]
    rcases List.mem_append.mp hb with hold | hlast
    · exact (h raw b hpair hold).imp_right (List.mem_append_left _)
    · obtain rfl := List.mem_singleton.mp hlast
      exact Or.inr (List.mem_append_right _
        (List.mem_map.mpr ⟨raw, mem_membersOf.mpr hpair, rfl⟩))
  · rw [heq]
    rcases List.mem_append.mp hb with hold | hlast
    · exact (h raw b hpair hold).imp (fun hkey => keys_subset_setName hkey)
        (List.mem_append_left _)
    · obtain rfl := List.mem_singleton.mp hlast
      have hraw := mem_membersOf.mpr hpair
      rw [hmembers] at hraw
      rcases List.mem_cons.mp hraw with rfl | hrest
      · exact Or.inl mem_keys_setName
      · exact Or.inr (List.mem_append_right _ (List.mem_map.mpr ⟨raw, hrest, rfl⟩))

/-- The first pass over any bases keeps the invariants. -/
theorem firstPass_invariants (start : Scope) (batch : List (String × String))
    (bases : List String) :
    (bases.foldl (settleBase batch) { scope := start }).Fresh start ∧
    (bases.foldl (settleBase batch) { scope := start }).FromPairs batch ∧
    (bases.foldl (settleBase batch) { scope := start }).Covers batch bases := by
  induction bases using List.reverseRecOn with
  | nil =>
      refine ⟨⟨List.nodup_nil, List.nodup_nil, ?_, ?_, List.Subset.refl _⟩, ⟨?_, ?_⟩, ?_⟩
      · exact fun name hname => absurd hname List.not_mem_nil
      · exact fun name hname => absurd hname List.not_mem_nil
      · exact fun raw name hname => absurd hname List.not_mem_nil
      · exact fun base raw hraw => absurd hraw List.not_mem_nil
      · exact fun raw base _ hbase => absurd hbase List.not_mem_nil
  | append_singleton bases base ih =>
      obtain ⟨hfresh, hpairs, hcovers⟩ := ih
      rw [List.foldl_append]
      exact ⟨hfresh.settleBase base, hpairs.settleBase base, hcovers.settleBase base⟩

end FirstPass

section SecondPass

variable {start : Scope} {batch : List (String × String)} {state : Batch}

theorem derivedName_not_mem (scope : Scope) (base raw : String) :
    derivedName scope base raw ∉ scope.taken := by
  rw [derivedName]
  split_ifs with hsuffix htaken htaken
  · exact numbered_not_mem scope base
  · exact fun hmem => htaken (has_eq_true_iff.mpr hmem)
  · exact numbered_not_mem scope base
  · exact fun hmem => htaken (has_eq_true_iff.mpr hmem)

/-- A derived name extends its base. -/
theorem derivedName_extends (scope : Scope) (base raw : String) :
    ∃ rest, derivedName scope base raw = base ++ rest := by
  obtain ⟨k, -, hnumbered, -, -⟩ := numbered_least scope base
  rw [derivedName]
  split_ifs
  · exact ⟨toString k, hnumbered⟩
  · exact ⟨"", String.append_empty.symm⟩
  · exact ⟨toString k, hnumbered⟩
  · exact ⟨"_" ++ sanitized raw, String.append_assoc ..⟩

/-- The second pass over waiting raw names keeps the invariants and names them all. -/
theorem secondPass_invariants
    (hfresh : state.Fresh start) (hpairs : state.FromPairs batch)
    (losers : List (String × String)) (hlosers : losers ⊆ state.losers) :
    (losers.foldl settleLoser state).Fresh start ∧
    (losers.foldl settleLoser state).FromPairs batch ∧
    (losers.foldl settleLoser state).losers = state.losers ∧
    keys state.assigned ⊆ keys (losers.foldl settleLoser state).assigned ∧
    ∀ loser ∈ losers, loser.2 ∈ keys (losers.foldl settleLoser state).assigned := by
  induction losers using List.reverseRecOn with
  | nil =>
      exact ⟨hfresh, hpairs, rfl, List.Subset.refl _,
        fun loser hloser => absurd hloser List.not_mem_nil⟩
  | append_singleton losers loser ih =>
      obtain ⟨base, raw⟩ := loser
      obtain ⟨hlast, hfirst⟩ := List.append_subset.mp hlosers |>.symm
      obtain ⟨ihfresh, ihpairs, ihlosers, ihgrows, ihnamed⟩ := ih hfirst
      have hpair : (raw, base) ∈ batch :=
        hpairs.losers base raw (hlast (List.mem_singleton_self _))
      rw [List.foldl_append]
      obtain ⟨rest, hrest⟩ :=
        derivedName_extends (losers.foldl settleLoser state).scope base raw
      refine ⟨ihfresh.give (derivedName_not_mem _ base raw) _,
        ihpairs.give hpair hrest _ fun b r hmem => Or.inl hmem, ihlosers,
        fun key hkey => keys_subset_setName (ihgrows hkey), ?_⟩
      intro loser hloser
      rcases List.mem_append.mp hloser with hold | hnew
      · exact keys_subset_setName (ihnamed loser hold)
      · obtain rfl := List.mem_singleton.mp hnew
        exact mem_keys_setName

end SecondPass

section Results

variable {batch : List (String × String)} {raw name : String}

/-- The state of a batch when both passes are over. -/
def settledBatch (scope : Scope) (batch : List (String × String)) : Batch :=
  let settled := (sortedDistinct (batch.map (·.2))).foldl (settleBase batch) { scope := scope }
  (settled.losers.mergeSort loserLe).foldl settleLoser settled

theorem assign_eq (scope : Scope) (batch : List (String × String)) :
    assign scope batch = ((settledBatch scope batch).assigned, (settledBatch scope batch).scope) :=
  rfl

/-- The members of a base do not depend on the order of the pairs. -/
theorem membersOf_congr
    {other : List (String × String)} (h : ∀ pair, pair ∈ batch ↔ pair ∈ other) (base : String) :
    membersOf batch base = membersOf other base := by
  have hraws : sortedDistinct ((batch.filter (·.2 == base)).map (·.1)) =
      sortedDistinct ((other.filter (·.2 == base)).map (·.1)) := by
    refine sortedDistinct_congr fun raw => ?_
    simp only [List.mem_map, List.mem_filter, h]
  rw [membersOf, membersOf, hraws]

/-- A batch gives the same names to the same pairs, in whatever order they come. -/
theorem assign_congr
    {other : List (String × String)} (h : ∀ pair, pair ∈ batch ↔ pair ∈ other) (scope : Scope) :
    assign scope batch = assign scope other := by
  have hbases : sortedDistinct (batch.map (·.2)) = sortedDistinct (other.map (·.2)) := by
    refine sortedDistinct_congr fun base => ?_
    simp only [List.mem_map, h]
  have hsettle : settleBase batch = settleBase other := by
    funext state base
    rw [settleBase, settleBase, membersOf_congr h]
  rw [assign_eq, assign_eq, settledBatch, settledBatch, hbases, hsettle]

theorem settledBatch_invariants (scope : Scope) (batch : List (String × String)) :
    (settledBatch scope batch).Fresh scope ∧ (settledBatch scope batch).FromPairs batch ∧
    ∀ raw base, (raw, base) ∈ batch → raw ∈ keys (settledBatch scope batch).assigned := by
  obtain ⟨hfresh, hpairs, hcovers⟩ :=
    firstPass_invariants scope batch (sortedDistinct (batch.map (·.2)))
  generalize hsettled :
    (sortedDistinct (batch.map (·.2))).foldl (settleBase batch) { scope := scope } = settled
      at hfresh hpairs hcovers
  have hsorted : ∀ loser, loser ∈ settled.losers.mergeSort loserLe ↔ loser ∈ settled.losers :=
    fun loser => List.mem_mergeSort
  obtain ⟨hfresh', hpairs', -, hgrows, hnamed⟩ :=
    secondPass_invariants hfresh hpairs (settled.losers.mergeSort loserLe)
      fun loser hloser => (hsorted loser).mp hloser
  rw [settledBatch, hsettled]
  refine ⟨hfresh', hpairs', ?_⟩
  intro raw base hpair
  have hbase : base ∈ sortedDistinct (batch.map (·.2)) :=
    mem_sortedDistinct.mpr (List.mem_map.mpr ⟨(raw, base), hpair, rfl⟩)
  rcases hcovers raw base hpair hbase with hkey | hloser
  · exact hgrows hkey
  · exact hnamed (base, raw) ((hsorted _).mpr hloser)

/-- The names of a batch are pairwise distinct, new, and taken afterwards. -/
theorem assign_fresh (scope : Scope) (batch : List (String × String)) :
    (values (assign scope batch).1).Nodup ∧
    (∀ name ∈ values (assign scope batch).1,
      name ∉ scope.taken ∧ name ∈ (assign scope batch).2.taken) ∧
    scope.taken ⊆ (assign scope batch).2.taken := by
  obtain ⟨hfresh, -, -⟩ := settledBatch_invariants scope batch
  rw [assign_eq]
  exact ⟨hfresh.values, fun name hname => ⟨hfresh.new name hname, hfresh.taken name hname⟩,
    hfresh.grows⟩

/-- The name of a raw name extends one of its bases. -/
theorem lookup?_assign
    (scope : Scope) {base : String} (h : (raw, base) ∈ batch) :
    ∃ b rest, (raw, b) ∈ batch ∧ lookup? (assign scope batch).1 raw = some (b ++ rest) := by
  obtain ⟨hfresh, hpairs, hnamed⟩ := settledBatch_invariants scope batch
  rw [assign_eq]
  obtain ⟨name, hname⟩ := Option.isSome_iff_exists.mp (lookup?_isSome_iff.mpr (hnamed raw base h))
  have hentry := (lookup?_eq_some_iff hfresh.keys).mp hname
  obtain ⟨b, rest, hpair, rfl⟩ := hpairs.assigned raw name hentry
  exact ⟨b, rest, hpair, hname⟩

theorem nodup_membersOf (batch : List (String × String)) (base : String) :
    (membersOf batch base).Nodup := by
  have hraws := nodup_sortedDistinct ((batch.filter (·.2 == base)).map (·.1))
  rw [membersOf, List.nodup_append]
  refine ⟨hraws.filter _, hraws.filter _, fun raw hraw other hother heq => ?_⟩
  have hequal := (List.mem_filter.mp hraw).2
  have hdifferent := (List.mem_filter.mp hother).2
  rw [← heq, bne, hequal] at hdifferent
  cases hdifferent

/-- When no base has two raw names and none is taken, the first pass leaves nobody waiting and
gives out bases only. -/
theorem firstPass_of_lone
    {start : Scope}
    (hlone : ∀ raw raw' base, (raw, base) ∈ batch → (raw', base) ∈ batch → raw = raw')
    (bases : List String) (hbases : bases.Nodup) (hfree : ∀ base ∈ bases, base ∉ start.taken) :
    (bases.foldl (settleBase batch) { scope := start }).losers = [] ∧
    (∀ entry ∈ (bases.foldl (settleBase batch) { scope := start }).assigned, entry ∈ batch) ∧
    ∀ name ∈ (bases.foldl (settleBase batch) { scope := start }).scope.taken,
      name ∈ start.taken ∨ name ∈ bases := by
  induction bases using List.reverseRecOn with
  | nil =>
      exact ⟨rfl, fun entry hentry => absurd hentry List.not_mem_nil, fun name => Or.inl⟩
  | append_singleton bases base ih =>
      obtain ⟨hfirst, -, hnew⟩ := List.nodup_append.mp hbases
      obtain ⟨ihlosers, ihassigned, ihtaken⟩ :=
        ih hfirst fun b hb => hfree b (List.mem_append_left _ hb)
      have hlast : base ∈ [base] := List.mem_singleton_self base
      rw [List.foldl_append]
      generalize bases.foldl (settleBase batch) { scope := start } = state
        at ihlosers ihassigned ihtaken
      show (settleBase batch state base).losers = [] ∧ _ ∧
        ∀ name ∈ (settleBase batch state base).scope.taken, _
      rcases settleBase_cases batch state base with
        ⟨-, heq⟩ | ⟨htaken, -⟩ | ⟨winner, rest, hmembers, -, heq⟩
      · rw [List.foldl_cons, List.foldl_nil, heq]
        exact ⟨ihlosers, ihassigned, fun name hname =>
          (ihtaken name hname).imp_right (List.mem_append_left _)⟩
      · rcases ihtaken base htaken with hold | hmem
        · exact absurd hold (hfree base (List.mem_append_right _ hlast))
        · exact absurd rfl (hnew base hmem base hlast)
      · have hwinner : (winner, base) ∈ batch :=
          mem_membersOf.mp (hmembers ▸ List.mem_cons_self ..)
        have hrest : rest = [] := by
          rw [List.eq_nil_iff_forall_not_mem]
          intro raw hraw
          have hpair := mem_membersOf.mp (hmembers ▸ List.mem_cons_of_mem winner hraw)
          have hnodup := hmembers ▸ nodup_membersOf batch base
          exact (List.nodup_cons.mp hnodup).1 (hlone _ _ _ hpair hwinner ▸ hraw)
        rw [List.foldl_cons, List.foldl_nil, heq]
        refine ⟨by rw [ihlosers, hrest]; rfl, ?_, ?_⟩
        · intro entry hentry
          rcases mem_setName hentry with rfl | hold
          · exact hwinner
          · exact ihassigned entry hold
        · intro name hname
          rcases mem_reserve.mp hname with hold | rfl
          · exact (ihtaken name hold).imp_right (List.mem_append_left _)
          · exact Or.inr (List.mem_append_right _ hlast)

/-- A raw name gets one of its bases when no base has two raw names and none is taken. -/
theorem lookup?_assign_of_lone
    {scope : Scope}
    (hlone : ∀ raw raw' base, (raw, base) ∈ batch → (raw', base) ∈ batch → raw = raw')
    (hfree : ∀ pair ∈ batch, pair.2 ∉ scope.taken) (hraw : raw ∈ keys batch) :
    ∃ base, (raw, base) ∈ batch ∧ lookup? (assign scope batch).1 raw = some base := by
  obtain ⟨⟨r, base⟩, hpair, rfl⟩ := List.mem_map.mp hraw
  obtain ⟨hfresh, -, hnamed⟩ := settledBatch_invariants scope batch
  have hbases : ∀ b ∈ sortedDistinct (batch.map (·.2)), b ∉ scope.taken := by
    intro b hb
    obtain ⟨pair, hmem, rfl⟩ := List.mem_map.mp (mem_sortedDistinct.mp hb)
    exact hfree pair hmem
  obtain ⟨hlosers, hassigned, -⟩ :=
    firstPass_of_lone hlone _ (nodup_sortedDistinct (batch.map (·.2))) hbases
  have hsettled : settledBatch scope batch =
      (sortedDistinct (batch.map (·.2))).foldl (settleBase batch) { scope := scope } := by
    rw [settledBatch]
    simp only [hlosers, List.mergeSort_nil, List.foldl_nil]
  obtain ⟨name, hname⟩ := Option.isSome_iff_exists.mp (lookup?_isSome_iff.mpr (hnamed r base hpair))
  have hentry := (lookup?_eq_some_iff hfresh.keys).mp hname
  rw [hsettled] at hentry
  exact ⟨name, hassigned _ hentry, hname⟩

/-- Raw names with different preferences get what they prefer. -/
theorem lookup?_assign_of_preferred
    {raws : List String} {prefer : String → String}
    (h : ∀ raw ∈ raws, ∀ raw' ∈ raws, prefer raw = prefer raw' → raw = raw') (hraw : raw ∈ raws) :
    lookup? (assign {} (raws.map fun raw => (raw, prefer raw))).1 raw = some (prefer raw) := by
  have hlone : ∀ name name' base, (name, base) ∈ raws.map (fun raw => (raw, prefer raw)) →
      (name', base) ∈ raws.map (fun raw => (raw, prefer raw)) → name = name' := by
    intro name name' base hname hname'
    obtain ⟨r, hr, hpair⟩ := List.mem_map.mp hname
    obtain ⟨r', hr', hpair'⟩ := List.mem_map.mp hname'
    obtain ⟨rfl, rfl⟩ := Prod.mk.inj hpair
    obtain ⟨rfl, hbase⟩ := Prod.mk.inj hpair'
    exact h r hr r' hr' hbase.symm
  have hfree : ∀ pair ∈ raws.map (fun raw => (raw, prefer raw)), pair.2 ∉ ({} : Scope).taken :=
    fun _ _ => List.not_mem_nil
  obtain ⟨base, hbase, hlookup⟩ := lookup?_assign_of_lone hlone hfree
    (List.mem_map.mpr ⟨_, List.mem_map_of_mem hraw, rfl⟩)
  obtain ⟨r, -, hpair⟩ := List.mem_map.mp hbase
  obtain ⟨rfl, rfl⟩ := Prod.mk.inj hpair
  exact hlookup

/-- Two raw names never get one name. -/
theorem lookup?_assign_inj
    (scope : Scope) {raw' : String}
    (h : lookup? (assign scope batch).1 raw = some name)
    (h' : lookup? (assign scope batch).1 raw' = some name) :
    raw = raw' := by
  obtain ⟨hfresh, -, -⟩ := settledBatch_invariants scope batch
  rw [assign_eq] at h h'
  have hentry := (lookup?_eq_some_iff hfresh.keys).mp h
  have hentry' := (lookup?_eq_some_iff hfresh.keys).mp h'
  have heq := List.inj_on_of_nodup_map hfresh.values hentry hentry' rfl
  exact congrArg Prod.fst heq

/-- Different raw names of a batch get different names. -/
theorem nodup_map_assigned
    (scope : Scope) {raws : List String} (hraws : raws.Nodup) (hbatch : raws ⊆ keys batch) :
    (raws.map fun raw => (lookup? (assign scope batch).1 raw).getD "").Nodup := by
  have hnamed : ∀ raw ∈ raws, ∃ name, lookup? (assign scope batch).1 raw = some name := by
    intro raw hraw
    obtain ⟨⟨r, base⟩, hpair, rfl⟩ := List.mem_map.mp (hbatch hraw)
    obtain ⟨b, rest, -, hname⟩ := lookup?_assign scope hpair
    exact ⟨b ++ rest, hname⟩
  refine List.Nodup.map_on ?_ hraws
  intro raw hraw raw' hraw' heq
  obtain ⟨name, hname⟩ := hnamed raw hraw
  obtain ⟨name', hname'⟩ := hnamed raw' hraw'
  rw [hname, hname', Option.getD_some, Option.getD_some] at heq
  exact lookup?_assign_inj scope hname (heq ▸ hname')

end Results

end Scope
end Name
end TableCast
