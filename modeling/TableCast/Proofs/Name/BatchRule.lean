import TableCast.Proofs.Name.Grants

/-!
# The rule by which a batch gives names

A batch settles all of its bases before it derives any name.  So who gets a base does not depend
on derived names, and what a derived name has to avoid is known when its turn comes: the names
that were taken before, all bases, and the names given at earlier turns.

**First pass.**  `Batch.Settled` describes the state after some bases: what is taken, who got a
base and who waits.  It holds when each raw name comes with one base, since then no name is given
in the place of another one.

**Second pass.**  The waiting raw names are all different and in increasing order, so each keeps
the name that it gets at its turn (`lookup?_secondPass`).

**Results.**
* `SameNames.derivedName`: a derived name depends on the names that are taken only.
* `assign_of_same_pairs`: a batch is a function of the set of taken names and the set of pairs.
* `head?_membersOf`: the first member of a base is the one equal to it, else the smallest.
* `derivedName_later`: which name a raw name gets whose base is taken.
* `assign_by_rule`: who gets a base, and what the others get.
-/

namespace TableCast
namespace Name
namespace Scope

section SameNames

variable {s t : Scope} {x y : Batch} {batch other : List (String × String)}

/-- The same names are taken, in whatever order. -/
def SameNames (s t : Scope) : Prop :=
  ∀ name, name ∈ s.taken ↔ name ∈ t.taken

theorem SameNames.has (h : SameNames s t) (name : String) : s.has name = t.has name := by
  rw [Bool.eq_iff_iff, has_eq_true_iff, has_eq_true_iff, h name]

theorem SameNames.reserve (h : SameNames s t) (name : String) :
    SameNames (s.reserve name) (t.reserve name) := by
  intro other
  rw [mem_reserve, mem_reserve, h other]

/-- The number is the least that makes a free name, so it does not depend on how long the search
may take. -/
theorem SameNames.numbered (h : SameNames s t) (base : String) :
    s.numbered base = t.numbered base := by
  obtain ⟨j, hj, hs, hsfree, hspassed⟩ := numbered_least s base
  obtain ⟨k, hk, ht, htfree, htpassed⟩ := numbered_least t base
  rcases Nat.lt_trichotomy j k with hlt | rfl | hlt
  · exact absurd ((h _).mpr (htpassed j hj hlt)) hsfree
  · rw [hs, ht]
  · exact absurd ((h _).mp (hspassed k hk hlt)) htfree

theorem SameNames.derivedName (h : SameNames s t) (base raw : String) :
    derivedName s base raw = derivedName t base raw := by
  simp only [Scope.derivedName, h.has, h.numbered]

/-- Two states of a batch that differ in the order of the taken names at most. -/
structure Batch.Alike (x y : Batch) : Prop where
  scope : SameNames x.scope y.scope
  assigned : x.assigned = y.assigned
  losers : x.losers = y.losers

theorem Batch.Alike.settleBase (h : x.Alike y) (batch : List (String × String)) (base : String) :
    (settleBase batch x base).Alike (settleBase batch y base) := by
  rw [Scope.settleBase, Scope.settleBase]
  cases membersOf batch base with
  | nil => exact h
  | cons winner rest =>
      simp only [h.scope.has base, h.assigned, h.losers]
      split_ifs
      · exact ⟨h.scope, rfl, rfl⟩
      · exact ⟨h.scope.reserve base, rfl, rfl⟩

theorem Batch.Alike.settleLoser (h : x.Alike y) (loser : String × String) :
    (settleLoser x loser).Alike (settleLoser y loser) := by
  have hname := h.scope.derivedName loser.1 loser.2
  refine ⟨?_, ?_, h.losers⟩
  · simp only [Scope.settleLoser, hname]
    exact h.scope.reserve _
  · simp only [Scope.settleLoser, hname, h.assigned]

/-- Both passes take states that are alike to states that are alike. -/
theorem settledBatch_alike (h : SameNames s t) (batch : List (String × String)) :
    (settledBatch s batch).Alike (settledBatch t batch) := by
  have hfirst := List.foldl_rel (l := sortedDistinct (batch.map (·.2))) (f := settleBase batch)
    (g := settleBase batch) (r := Batch.Alike) (a := { scope := s }) (b := { scope := t })
    ⟨h, rfl, rfl⟩ fun base _ _ _ hrel => hrel.settleBase batch base
  rw [settledBatch, settledBatch, hfirst.losers]
  exact List.foldl_rel hfirst fun loser _ _ _ hrel => hrel.settleLoser loser

/-- Scopes with the same names and batches with the same pairs, however often and in whatever
order these come, give the same map of raw names and leave scopes with the same names. -/
theorem assign_of_same_pairs
    (hscope : SameNames s t) (hbatch : ∀ pair, pair ∈ batch ↔ pair ∈ other) :
    (assign s batch).1 = (assign t other).1 ∧
    SameNames (assign s batch).2 (assign t other).2 ∧
    (keys (assign s batch).1).Nodup ∧
    ∀ raw, raw ∈ keys (assign s batch).1 ↔ raw ∈ keys batch := by
  rw [← assign_congr hbatch t]
  have halike := settledBatch_alike hscope batch
  exact ⟨halike.assigned, halike.scope, mem_keys_assign s batch⟩

/-- Two raw names with one base, one of them with a second base too, listed in two ways. -/
theorem assign_of_turned_pairs :
    SameNames { taken := ["col", "id"] } { taken := ["id", "col", "id"] } ∧
    (∀ pair, pair ∈ [("b", "col"), ("a", "col"), ("c", "c"), ("a", "id")] ↔
      pair ∈ [("a", "id"), ("c", "c"), ("b", "col"), ("a", "col"), ("a", "id"), ("b", "col")]) ∧
    (assign { taken := ["col", "id"] } [("b", "col"), ("a", "col"), ("c", "c"), ("a", "id")]).1 =
      (assign { taken := ["id", "col", "id"] }
        [("a", "id"), ("c", "c"), ("b", "col"), ("a", "col"), ("a", "id"), ("b", "col")]).1 := by
  have hscope : SameNames { taken := ["col", "id"] } { taken := ["id", "col", "id"] } := by
    intro name
    simp only [List.mem_cons]
    tauto
  have hbatch : ∀ pair, pair ∈ [("b", "col"), ("a", "col"), ("c", "c"), ("a", "id")] ↔
      pair ∈ [("a", "id"), ("c", "c"), ("b", "col"), ("a", "col"), ("a", "id"), ("b", "col")] := by
    intro pair
    simp only [List.mem_cons]
    tauto
  exact ⟨hscope, hbatch, (assign_of_same_pairs hscope hbatch).1⟩

end SameNames

section Groups

variable {batch : List (String × String)} {base raw : String}

/-- The raw name that comes first for a base: the one equal to it, else the smallest. -/
def Heads (batch : List (String × String)) (base raw : String) : Prop :=
  (raw, base) ∈ batch ∧
    (raw = base ∨ (base, base) ∉ batch ∧ ∀ other, (other, base) ∈ batch → raw ≤ other)

/-- The first member of a base is the one equal to it, else the smallest one. -/
theorem head?_membersOf (h : (membersOf batch base).head? = some raw) : Heads batch base raw := by
  have hpair : (raw, base) ∈ batch := mem_membersOf.mp (List.mem_of_mem_head? h)
  refine ⟨hpair, ?_⟩
  rw [membersOf] at h
  generalize hraws : sortedDistinct _ = raws at h
  have hmem : ∀ other, other ∈ raws ↔ (other, base) ∈ batch := by
    intro other
    simp [← hraws, mem_sortedDistinct]
  have hstrict : raws.Pairwise (· < ·) := hraws ▸ sortedDistinct_strict _
  cases hequal : raws.filter (· == base) with
  | cons first rest =>
      have hfirst : first = base := by
        have := List.of_mem_filter (hequal ▸ List.mem_cons_self : first ∈ raws.filter (· == base))
        simpa using this
      simp [hequal] at h
      exact Or.inl (h ▸ hfirst)
  | nil =>
      have hnone : ∀ other ∈ raws, other ≠ base := by
        simpa using hequal
      have hall : raws.filter (· != base) = raws :=
        List.filter_eq_self.mpr fun other hother => by simpa using hnone other hother
      rw [hequal, hall, List.nil_append] at h
      obtain ⟨rest, hrest⟩ := List.head?_eq_some_iff.mp h
      refine Or.inr ⟨fun hbase => hnone base ((hmem base).mpr hbase) rfl, fun other hother => ?_⟩
      rw [hrest] at hstrict
      have hcase := (hmem other).mpr hother
      rw [hrest] at hcase
      rcases List.mem_cons.mp hcase with rfl | hlater
      · exact le_refl other
      · exact le_of_lt (List.rel_of_pairwise_cons hstrict hlater)

theorem exists_head?_membersOf (h : (raw, base) ∈ batch) :
    ∃ head, (membersOf batch base).head? = some head := by
  cases hmembers : membersOf batch base with
  | nil => exact absurd (hmembers ▸ mem_membersOf.mpr h) List.not_mem_nil
  | cons head rest => exact ⟨head, rfl⟩

end Groups

section Bases

variable {start : Scope} {batch : List (String × String)} {bases : List String} {state : Batch}
variable {base raw name : String}

/-- The state of a batch when some bases are settled. -/
structure Batch.Settled (start : Scope) (batch : List (String × String)) (bases : List String)
    (state : Batch) : Prop where
  taken : ∀ name, name ∈ state.scope.taken ↔ name ∈ start.taken ∨ name ∈ bases
  /-- A base that was free goes to its first member. -/
  given : ∀ raw name, lookup? state.assigned raw = some name ↔
    name ∈ bases ∧ name ∉ start.taken ∧ (membersOf batch name).head? = some raw
  /-- The other members wait. -/
  waiting : ∀ base raw, (base, raw) ∈ state.losers ↔
    base ∈ bases ∧ (raw, base) ∈ batch ∧
      ¬(base ∉ start.taken ∧ (membersOf batch base).head? = some raw)

theorem Batch.Settled.settleBase
    (h : state.Settled start batch bases) (hsingle : SingleBased batch)
    (hnew : base ∉ bases) (hpair : (raw, base) ∈ batch) :
    (settleBase batch state base).Settled start batch (bases ++ [base]) := by
  have hwaits : ∀ raws : List String, ∀ b r,
      (b, r) ∈ state.losers ++ raws.map (base, ·) ↔
        (b, r) ∈ state.losers ∨ b = base ∧ r ∈ raws := by
    intro raws b r
    simp [eq_comm, and_comm]
  rcases settleBase_cases batch state base with
    ⟨hmembers, -⟩ | ⟨htaken, heq⟩ | ⟨winner, rest, hmembers, hfree, heq⟩
  · exact absurd (hmembers ▸ mem_membersOf.mpr hpair) List.not_mem_nil
  · have hstart : base ∈ start.taken := ((h.taken base).mp htaken).resolve_right hnew
    rw [heq]
    refine ⟨fun name => ?_, fun r name => ?_, fun b r => ?_⟩
    · grind [h.taken name]
    · grind [h.given r name]
    · grind [h.waiting b r, hwaits (membersOf batch base) b r, mem_membersOf]
  · have hstart : base ∉ start.taken := fun hmem => hfree ((h.taken base).mpr (Or.inl hmem))
    have hhead : (membersOf batch base).head? = some winner := by rw [hmembers]; rfl
    have hwinner : (winner, base) ∈ batch := (head?_membersOf hhead).1
    have hrest : ∀ r, r ∈ rest ↔ (r, base) ∈ batch ∧ r ≠ winner := by
      intro r
      have hnodup := List.nodup_cons.mp (hmembers ▸ nodup_membersOf batch base)
      rw [← mem_membersOf, hmembers]
      grind
    rw [heq]
    refine ⟨fun name => ?_, fun r name => ?_, fun b r => ?_⟩
    · rw [mem_reserve, h.taken name, List.mem_append, List.mem_singleton, or_assoc]
    · -- The winner has no other base, so its name takes no other one's place.
      have hother : (membersOf batch name).head? = some winner → name = base := fun hname =>
        hsingle winner name base (head?_membersOf hname).1 hwinner
      show lookup? (setName winner base state.assigned) r = some name ↔ _
      rw [lookup?_setName]
      grind [h.given r name]
    · show (b, r) ∈ state.losers ++ rest.map (base, ·) ↔ _
      grind [h.waiting b r, hwaits rest b r]

/-- The first pass settles all bases. -/
theorem firstPass_settled (start : Scope) (hsingle : SingleBased batch) (bases : List String)
    (hnodup : bases.Nodup) (hbases : ∀ base ∈ bases, ∃ raw, (raw, base) ∈ batch) :
    (bases.foldl (settleBase batch) { scope := start }).Settled start batch bases := by
  induction bases using List.reverseRecOn with
  | nil => exact ⟨by simp, by simp [lookup?], by simp⟩
  | append_singleton bases base ih =>
      obtain ⟨raw, hpair⟩ := hbases base (by simp)
      obtain ⟨hfirst, -, hnew⟩ := List.nodup_append.mp hnodup
      rw [List.foldl_append]
      exact (ih hfirst fun b hb => hbases b (by simp [hb])).settleBase hsingle
        (fun hmem => hnew base hmem base (by simp) rfl) hpair

end Bases

section Turns

variable {scope : Scope} {batch : List (String × String)} {state : Batch}
variable {losers before after : List (String × String)} {base raw name : String}

/-- The name of a raw name whose base goes to another one: the base with the raw name behind it,
or the base with the least number from 2 on that makes a free name. -/
def LaterName (taken : String → Prop) (base raw name : String) : Prop :=
  (sanitized raw ≠ "" ∧ ¬taken (base ++ "_" ++ sanitized raw) ∧
    name = base ++ "_" ++ sanitized raw) ∨
  ((sanitized raw = "" ∨ taken (base ++ "_" ++ sanitized raw)) ∧
    ∃ k, 2 ≤ k ∧ name = numberedName base k ∧ ¬taken (numberedName base k) ∧
      ∀ i, 2 ≤ i → i < k → taken (numberedName base i))

theorem derivedName_later (hbase : base ∈ scope.taken) (raw : String) :
    LaterName (· ∈ scope.taken) base raw (derivedName scope base raw) := by
  obtain ⟨k, hk, hnumbered, hfree, hpassed⟩ := numbered_least scope base
  have hcount : ∃ k, 2 ≤ k ∧ scope.numbered base = numberedName base k ∧
      numberedName base k ∉ scope.taken ∧
      ∀ i, 2 ≤ i → i < k → numberedName base i ∈ scope.taken :=
    ⟨k, hk, hnumbered, hfree, hpassed⟩
  by_cases hempty : sanitized raw = ""
  · have hsuffix : (sanitized raw).isEmpty = true := by simp [hempty]
    simp only [derivedName, hsuffix, if_true, has_eq_true_iff.mpr hbase]
    exact Or.inr ⟨Or.inl hempty, hcount⟩
  · have hsuffix : (sanitized raw).isEmpty = false := by simpa using hempty
    simp only [derivedName, hsuffix, Bool.false_eq_true, if_false]
    split_ifs with htaken
    · exact Or.inr ⟨Or.inr (has_eq_true_iff.mp htaken), hcount⟩
    · exact Or.inl ⟨hempty, fun hmem => htaken (has_eq_true_iff.mpr hmem), rfl⟩

/-- A raw name that does not wait keeps its name in the second pass. -/
theorem lookup?_secondPass_of_not_mem (h : raw ∉ losers.map (·.2)) :
    lookup? (losers.foldl settleLoser state).assigned raw = lookup? state.assigned raw := by
  induction losers generalizing state with
  | nil => rfl
  | cons loser losers ih =>
      obtain ⟨hne, hrest⟩ := not_or.mp (mt List.mem_cons.mpr h)
      rw [List.foldl_cons, ih hrest]
      show lookup? (setName loser.2 _ state.assigned) raw = _
      rw [lookup?_setName, if_neg (Ne.symm hne)]

/-- A waiting raw name keeps the name that it gets at its turn. -/
theorem lookup?_secondPass
    (h : ((before ++ (base, raw) :: after).map (·.2)).Nodup) :
    lookup? ((before ++ (base, raw) :: after).foldl settleLoser state).assigned raw =
      some (derivedName (before.foldl settleLoser state).scope base raw) := by
  rw [List.map_append, List.map_cons, List.nodup_append, List.nodup_cons] at h
  rw [List.foldl_append, List.foldl_cons, lookup?_secondPass_of_not_mem h.2.1.1]
  show lookup? (setName raw _ _) raw = _
  rw [lookup?_setName, if_pos rfl]

/-- What is taken in the second pass is what was taken and the names that were given. -/
theorem mem_taken_secondPass (h : (losers.map (·.2)).Nodup) :
    name ∈ (losers.foldl settleLoser state).scope.taken ↔
      name ∈ state.scope.taken ∨
      ∃ loser ∈ losers, lookup? (losers.foldl settleLoser state).assigned loser.2 = some name := by
  induction losers generalizing state with
  | nil => simp
  | cons loser losers ih =>
      obtain ⟨hne, hrest⟩ := List.nodup_cons.mp h
      have hgiven : lookup? (losers.foldl settleLoser (settleLoser state loser)).assigned loser.2 =
          some (derivedName state.scope loser.1 loser.2) := by
        rw [lookup?_secondPass_of_not_mem hne]
        show lookup? (setName loser.2 _ _) loser.2 = _
        rw [lookup?_setName, if_pos rfl]
      have hstep : name ∈ (settleLoser state loser).scope.taken ↔
          name ∈ state.scope.taken ∨ derivedName state.scope loser.1 loser.2 = name := by
        rw [eq_comm]
        exact mem_reserve
      rw [List.foldl_cons, ih hrest, hstep]
      simp only [List.mem_cons, exists_eq_or_imp, hgiven, Option.some.injEq, or_assoc]

end Turns

section Rule

variable {scope : Scope} {batch : List (String × String)} {state : Batch}
variable {base raw name : String}

/-- Whether a name is taken when the turn of a raw name comes: it was taken before, it is a base,
or it was given at an earlier turn.  Turns are in the order of base and raw name. -/
def TakenAtTurn (scope : Scope) (batch : List (String × String)) (base raw name : String) : Prop :=
  name ∈ scope.taken ∨ name ∈ values batch ∨
    ∃ earlier b, (earlier, b) ∈ batch ∧ toLex (b, earlier) < toLex (base, raw) ∧
      lookup? (assign scope batch).1 earlier = some name

theorem loserLe_iff (a b : String × String) : loserLe a b = true ↔ toLex a ≤ toLex b := by
  simp [loserLe, Prod.Lex.toLex_le_toLex]

/-- The turns are in increasing order. -/
theorem strict_turns {losers : List (String × String)} (h : (losers.map (·.2)).Nodup) :
    (losers.mergeSort loserLe).Pairwise fun a b => toLex a < toLex b := by
  have hle : (losers.mergeSort loserLe).Pairwise fun a b => loserLe a b = true := by
    refine List.pairwise_mergeSort (fun a b c => ?_) (fun a b => ?_) losers
    · simp only [loserLe_iff]
      exact le_trans
    · rw [Bool.or_eq_true, loserLe_iff, loserLe_iff]
      exact le_total _ _
  have hnodup : (losers.mergeSort loserLe).Nodup :=
    (List.mergeSort_perm losers loserLe).nodup_iff.mpr (List.Nodup.of_map _ h)
  refine hle.imp₂ (fun a b hab hne => ?_) hnodup
  exact lt_of_le_of_ne ((loserLe_iff a b).mp hab) fun heq => hne (toLex.injective heq)

/-- Both passes of a batch: the state between them, and the turns of the second one. -/
structure Turns (scope : Scope) (batch : List (String × String)) (settled : Batch)
    (turns : List (String × String)) : Prop where
  bases : settled.Settled scope batch (sortedDistinct (batch.map (·.2)))
  assigned : (assign scope batch).1 = (turns.foldl settleLoser settled).assigned
  mem : ∀ turn, turn ∈ turns ↔ turn ∈ settled.losers
  nodup : (keys settled.assigned ++ turns.map (·.2)).Nodup
  increasing : turns.Pairwise fun a b => toLex a < toLex b

theorem mem_bases : base ∈ sortedDistinct (batch.map (·.2)) ↔ ∃ raw, (raw, base) ∈ batch := by
  simp [mem_sortedDistinct]

theorem exists_turns (scope : Scope) (hsingle : SingleBased batch) :
    ∃ settled turns, Turns scope batch settled turns := by
  have hbases := nodup_sortedDistinct (batch.map (·.2))
  have hsettled := firstPass_settled scope hsingle _ hbases fun base => mem_bases.mp
  have hheld := (firstPass_exact scope hsingle _ hbases).1
  have hassign : (assign scope batch).1 = (settledBatch scope batch).assigned := rfl
  rw [settledBatch] at hassign
  generalize (sortedDistinct (batch.map (·.2))).foldl (settleBase batch) { scope := scope } =
    settled at hsettled hheld hassign
  have hnodup : (keys settled.assigned ++ settled.losers.map (·.2)).Nodup :=
    hheld.nodup_iff.mpr (nodup_flatMap_membersOf hsingle hbases)
  have hsorted : (settled.losers.mergeSort loserLe).Perm settled.losers :=
    List.mergeSort_perm _ _
  refine ⟨settled, settled.losers.mergeSort loserLe, hsettled, hassign,
    fun turn => hsorted.mem_iff, ?_, strict_turns (List.nodup_append.mp hnodup).2.1⟩
  exact ((hsorted.map (·.2)).append_left _).nodup_iff.mpr hnodup

variable {settled : Batch} {turns before after : List (String × String)}

/-- A base that was free goes to its first member, and to nobody else in either pass. -/
theorem Turns.lookup?_base (h : Turns scope batch settled turns) (hbase : base ∈ values batch) :
    lookup? (assign scope batch).1 raw = some base ↔
      base ∉ scope.taken ∧ (membersOf batch base).head? = some raw := by
  obtain ⟨⟨member, b⟩, hpair, rfl⟩ := List.mem_map.mp hbase
  have hhead : ∀ head, b ∉ scope.taken → (membersOf batch b).head? = some head →
      lookup? (assign scope batch).1 head = some b := by
    intro head hfree hhead
    have hgiven := (h.bases.given head b).mpr ⟨mem_bases.mpr ⟨member, hpair⟩, hfree, hhead⟩
    have hkey : head ∈ keys settled.assigned := lookup?_isSome_iff.mp (by rw [hgiven]; rfl)
    have hturn : head ∉ turns.map (·.2) := fun hmem =>
      (List.nodup_append.mp h.nodup).2.2 head hkey head hmem rfl
    rw [h.assigned, lookup?_secondPass_of_not_mem hturn, hgiven]
  constructor
  · intro hraw
    obtain ⟨head, hmembers⟩ := exists_head?_membersOf hpair
    have hmem : b ∈ values (assign scope batch).1 := by
      obtain ⟨entry, hentry, hvalue⟩ := Option.map_eq_some_iff.mp hraw
      exact List.mem_map.mpr ⟨entry, List.mem_of_find?_eq_some hentry, hvalue⟩
    have hfree := ((assign_fresh scope batch).2.1 b hmem).1
    rw [lookup?_assign_inj scope hraw (hhead head hfree hmembers)]
    exact ⟨hfree, hmembers⟩
  · rintro ⟨hfree, hmembers⟩
    exact hhead raw hfree hmembers

/-- Whoever does not get its base has a turn. -/
theorem Turns.mem_iff (h : Turns scope batch settled turns) :
    (base, raw) ∈ turns ↔
      (raw, base) ∈ batch ∧ lookup? (assign scope batch).1 raw ≠ some base := by
  rw [h.mem, h.bases.waiting]
  constructor
  · rintro ⟨-, hpair, hlate⟩
    exact ⟨hpair, fun hraw => hlate ((h.lookup?_base (List.mem_map_of_mem hpair)).mp hraw)⟩
  · rintro ⟨hpair, hne⟩
    refine ⟨mem_bases.mpr ⟨raw, hpair⟩, hpair, fun hfirst => hne ?_⟩
    exact (h.lookup?_base (List.mem_map_of_mem hpair)).mpr hfirst

/-- What is taken when a turn comes. -/
theorem Turns.taken_iff (h : Turns scope batch settled (before ++ (base, raw) :: after)) :
    name ∈ (before.foldl settleLoser settled).scope.taken ↔
      TakenAtTurn scope batch base raw name := by
  have hraws := (List.nodup_append.mp h.nodup).2.1
  rw [List.map_append] at hraws
  obtain ⟨hbefore, -, hapart⟩ := List.nodup_append.mp hraws
  have hkept : ∀ turn ∈ before,
      lookup? (before.foldl settleLoser settled).assigned turn.2 =
        lookup? (assign scope batch).1 turn.2 := by
    intro turn hturn
    rw [h.assigned, List.foldl_append]
    refine (lookup?_secondPass_of_not_mem fun hmem => ?_).symm
    exact hapart turn.2 (List.mem_map_of_mem hturn) turn.2 hmem rfl
  have hvalues : name ∈ sortedDistinct (batch.map (·.2)) ↔ name ∈ values batch :=
    mem_sortedDistinct
  rw [mem_taken_secondPass hbefore, h.bases.taken, hvalues, or_assoc, TakenAtTurn]
  refine or_congr_right ⟨?_, ?_⟩
  · rintro (hbase | ⟨⟨b, earlier⟩, hturn, hname⟩)
    · exact Or.inl hbase
    · have hlt := (List.pairwise_append.mp h.increasing).2.2 _ hturn _ List.mem_cons_self
      have hpair := (h.mem_iff.mp (List.mem_append_left _ hturn)).1
      exact Or.inr ⟨earlier, b, hpair, hlt, (hkept _ hturn) ▸ hname⟩
  · rintro (hbase | ⟨earlier, b, hpair, hlt, hname⟩)
    · exact Or.inl hbase
    · by_cases hfirst : lookup? (assign scope batch).1 earlier = some b
      · obtain rfl := Option.some.inj (hfirst.symm.trans hname)
        exact Or.inl (List.mem_map_of_mem hpair)
      · -- An earlier turn stands in front: behind this one stand the later ones only.
        rcases List.mem_append.mp (h.mem_iff.mpr ⟨hpair, hfirst⟩) with hturn | hturn
        · exact Or.inr ⟨(b, earlier), hturn, (hkept _ hturn).trans hname⟩
        · rcases List.mem_cons.mp hturn with heq | hlater
          · exact absurd (heq ▸ hlt) (lt_irrefl _)
          · have hgt := List.rel_of_pairwise_cons (List.pairwise_append.mp h.increasing).2.1 hlater
            exact absurd hlt (lt_asymm hgt)

/-- In a batch with one base for each raw name, a base that was free goes to exactly one raw name,
the member of its group that is equal to it or else the smallest one.  Whoever does not get its
base gets the base with its raw name behind it, or the base numbered. -/
theorem assign_by_rule (scope : Scope) (hsingle : SingleBased batch) :
    (∀ base ∈ values batch, base ∉ scope.taken →
      ∃ head, Heads batch base head ∧
        ∀ raw, lookup? (assign scope batch).1 raw = some base ↔ raw = head) ∧
    ∀ raw base, (raw, base) ∈ batch → lookup? (assign scope batch).1 raw ≠ some base →
      ∃ name, lookup? (assign scope batch).1 raw = some name ∧
        LaterName (TakenAtTurn scope batch base raw) base raw name := by
  obtain ⟨settled, turns, hturns⟩ := exists_turns scope hsingle
  constructor
  · intro base hbase hfree
    obtain ⟨⟨member, _⟩, hpair, rfl⟩ := List.mem_map.mp hbase
    obtain ⟨head, hmembers⟩ := exists_head?_membersOf hpair
    refine ⟨head, head?_membersOf hmembers, fun raw => ?_⟩
    rw [hturns.lookup?_base hbase, hmembers]
    simp [hfree, eq_comm]
  · intro raw base hpair hlate
    obtain ⟨before, after, rfl⟩ := List.append_of_mem (hturns.mem_iff.mpr ⟨hpair, hlate⟩)
    have hname : lookup? (assign scope batch).1 raw =
        some (derivedName (before.foldl settleLoser settled).scope base raw) := by
      rw [hturns.assigned, lookup?_secondPass (List.nodup_append.mp hturns.nodup).2.1]
    have hbase : base ∈ (before.foldl settleLoser settled).scope.taken :=
      hturns.taken_iff.mpr (Or.inr (Or.inl (List.mem_map_of_mem hpair)))
    have htaken : (· ∈ (before.foldl settleLoser settled).scope.taken) =
        TakenAtTurn scope batch base raw :=
      funext fun _ => propext hturns.taken_iff
    exact ⟨_, hname, htaken ▸ derivedName_later hbase raw⟩

/-- Columns of one group, and one column whose base is the name that another one would derive. -/
def rivalColumns : List (String × String) :=
  [("b", "col"), ("a", "col"), ("col-b", "col_b")]

/-- The smallest member gets the base; the other one is too late for its derived name as well. -/
theorem assign_of_rivalColumns :
    SingleBased rivalColumns ∧
    (∃ head, Heads rivalColumns "col" head ∧
      ∀ raw, lookup? (assign {} rivalColumns).1 raw = some "col" ↔ raw = head) ∧
    (∃ name, lookup? (assign {} rivalColumns).1 "b" = some name ∧
      LaterName (TakenAtTurn {} rivalColumns "col" "b") "col" "b" name) ∧
    (assign {} rivalColumns).1 = [("a", "col"), ("col-b", "col_b"), ("b", "col2")] := by
  have hsingle : SingleBased rivalColumns := by
    intro raw base base' h h'
    simp only [rivalColumns, List.mem_cons, Prod.mk.injEq] at h h'
    grind
  have hassign : (assign {} rivalColumns).1 =
      [("a", "col"), ("col-b", "col_b"), ("b", "col2")] := by cbv
  obtain ⟨hbases, hothers⟩ := assign_by_rule {} hsingle
  refine ⟨hsingle, hbases "col" (by decide) (by decide), hothers "b" "col" (by decide) ?_, hassign⟩
  rw [hassign]
  decide

end Rule

end Scope
end Name
end TableCast
