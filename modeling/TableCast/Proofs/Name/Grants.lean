import TableCast.Proofs.Name.BatchNames

/-!
# Names given out by a whole run of requests

A scope is asked for names again and again: for a batch, for the first free one of some
candidates, or to keep a name for itself.  Whatever it was asked before, a name that it gives
out was free, and it never gives out a name a second time.

**Numbering.**  The search for a free number has no bound of its own; `Counts` describes it.
It ends, and the bounded search `Scope.numbered` ends at the same number.

**Invariants.**  `Grant.Sound` says what one request does to the scope, whatever its names are.
A batch may give a raw name two names, of which the later one counts; when each raw name comes
with one base, the raw names that are named or waiting are all different (`heldRaws_settleBase`),
so no name is taken and then dropped.

**Results.**
* `exists_counts`: the search for a free number ends.
* `assign_exact`: a batch with one base for each raw name takes nothing but the names it gives.
* `Grant.Sound.of_answer`: what one request promises.
* `requests_never_repeat_a_name`: what a whole run of requests promises.
-/

namespace TableCast
namespace Name
namespace Scope

section Counting

variable {scope : Scope} {base : String}

/-- The search for a number that makes a free name, from one number to the number where it
ends. -/
inductive Counts (scope : Scope) (base : String) : Nat → Nat → Prop
  | free {k : Nat} (h : numberedName base k ∉ scope.taken) : Counts scope base k k
  | taken {k n : Nat} (h : numberedName base k ∈ scope.taken) (hn : Counts scope base (k + 1) n) :
      Counts scope base k n

theorem Counts.of_passed {k : Nat} (h : numberedName base k ∉ scope.taken) :
    ∀ {j m : Nat}, m + j = k → (∀ i, m ≤ i → i < k → numberedName base i ∈ scope.taken) →
      Counts scope base m k
  | 0, m, hm, _ => by
      obtain rfl : m = k := by omega
      exact .free h
  | j + 1, m, hm, hpassed => by
      have hnext : m + 1 + j = k := by omega
      refine .taken (hpassed m le_rfl (by omega)) (Counts.of_passed h hnext fun i hi hik => ?_)
      exact hpassed i (by omega) hik

/-- The search for a free number ends, and the bounded search ends there too. -/
theorem exists_counts (scope : Scope) (base : String) :
    ∃ n, Counts scope base 2 n ∧ scope.numbered base = numberedName base n := by
  obtain ⟨n, htwo, hnumbered, hfree, hpassed⟩ := numbered_least scope base
  have hsum : 2 + (n - 2) = n := by omega
  exact ⟨n, Counts.of_passed hfree hsum hpassed, hnumbered⟩

end Counting

section Exact

variable {start : Scope} {batch : List (String × String)} {state : Batch}
variable {raw name base : String}

/-- Each raw name of a batch comes with a single base. -/
def SingleBased (batch : List (String × String)) : Prop :=
  ∀ raw base base', (raw, base) ∈ batch → (raw, base') ∈ batch → base = base'

/-- The raw names that have a name or wait for one. -/
def Batch.heldRaws (state : Batch) : List String :=
  keys state.assigned ++ state.losers.map (·.2)

/-- Every name that was taken on the way is one of those given. -/
def Batch.Exact (start : Scope) (state : Batch) : Prop :=
  ∀ name ∈ state.scope.taken, name ∈ start.taken ∨ name ∈ values state.assigned

theorem setName_of_not_mem {names : List (String × String)} (h : raw ∉ keys names) :
    setName raw name names = names ++ [(raw, name)] := by
  induction names with
  | nil => rfl
  | cons first rest ih =>
      obtain ⟨r, n⟩ := first
      obtain ⟨hr, hrest⟩ := not_or.mp (mt List.mem_cons.mpr h)
      have hne : ¬(r == raw) = true := fun heq => hr (beq_iff_eq.mp heq).symm
      rw [setName, if_neg hne, ih hrest, List.cons_append]

/-- A name for a raw name that has none is added to those given. -/
theorem Batch.Exact.give
    (h : state.Exact start) (hraw : raw ∉ keys state.assigned)
    (losers : List (String × String)) :
    Batch.Exact start
      { scope := state.scope.reserve name
        assigned := setName raw name state.assigned
        losers := losers } := by
  intro other hother
  show _ ∨ other ∈ (setName raw name state.assigned).map (·.2)
  rw [setName_of_not_mem hraw, List.map_append, List.mem_append]
  rcases mem_reserve.mp hother with hold | rfl
  · exact (h other hold).imp_right Or.inl
  · exact .inr (.inr (List.mem_singleton_self other))

/-- A base that is settled adds its raw names to those that are held. -/
theorem heldRaws_settleBase
    (h : ∀ raw ∈ membersOf batch base, raw ∉ keys state.assigned) :
    (settleBase batch state base).heldRaws.Perm (state.heldRaws ++ membersOf batch base) := by
  have hraws : ∀ raws : List String, (raws.map fun raw => (base, raw)).map (·.2) = raws := by
    intro raws
    rw [List.map_map]
    exact List.map_id raws
  rcases settleBase_cases batch state base with
    ⟨hmembers, heq⟩ | ⟨-, heq⟩ | ⟨winner, rest, hmembers, -, heq⟩
  · rw [heq, hmembers, List.append_nil]
  · rw [heq, Batch.heldRaws, Batch.heldRaws, List.map_append, hraws, List.append_assoc]
  · have hwinner : winner ∉ keys state.assigned :=
      h winner (hmembers ▸ List.mem_cons_self)
    have hkeys : keys (setName winner base state.assigned) = keys state.assigned ++ [winner] := by
      rw [setName_of_not_mem hwinner, keys, List.map_append]
      rfl
    rw [heq, hmembers, Batch.heldRaws, Batch.heldRaws]
    show (keys (setName winner base state.assigned) ++ _).Perm _
    rw [hkeys, List.map_append, hraws, List.append_assoc, List.append_assoc]
    refine List.Perm.append_left _ ?_
    rw [List.singleton_append]
    exact List.perm_middle.symm

theorem Batch.Exact.settleBase
    (h : state.Exact start) (hnew : ∀ raw ∈ membersOf batch base, raw ∉ keys state.assigned) :
    (settleBase batch state base).Exact start := by
  rcases settleBase_cases batch state base with
    ⟨-, heq⟩ | ⟨-, heq⟩ | ⟨winner, rest, hmembers, -, heq⟩
  · rw [heq]
    exact h
  · rw [heq]
    exact h
  · rw [heq]
    exact h.give (hnew winner (hmembers ▸ List.mem_cons_self)) _

theorem nodup_flatMap_membersOf (hsingle : SingleBased batch) {bases : List String}
    (h : bases.Nodup) : (bases.flatMap (membersOf batch)).Nodup := by
  rw [List.nodup_flatMap]
  refine ⟨fun base _ => nodup_membersOf batch base, h.imp fun {b c} hne raw hb hc => ?_⟩
  exact hne (hsingle raw b c (mem_membersOf.mp hb) (mem_membersOf.mp hc))

/-- The first pass holds the raw names of the settled bases, each once. -/
theorem firstPass_exact (start : Scope) (hsingle : SingleBased batch) (bases : List String)
    (h : bases.Nodup) :
    (bases.foldl (settleBase batch) { scope := start }).heldRaws.Perm
        (bases.flatMap (membersOf batch)) ∧
      (bases.foldl (settleBase batch) { scope := start }).Exact start := by
  induction bases using List.reverseRecOn with
  | nil => exact ⟨List.Perm.refl _, fun name hname => .inl hname⟩
  | append_singleton bases base ih =>
      have hall := nodup_flatMap_membersOf hsingle h
      obtain ⟨hheld, hexact⟩ := ih (List.nodup_append.mp h).1
      rw [List.flatMap_append, List.flatMap_singleton] at hall ⊢
      rw [List.foldl_append, List.foldl_cons, List.foldl_nil]
      generalize bases.foldl (settleBase batch) { scope := start } = state at hheld hexact
      have hnew : ∀ raw ∈ membersOf batch base, raw ∉ keys state.assigned := by
        intro raw hraw hkey
        have hbefore := hheld.mem_iff.mp (List.mem_append_left _ hkey)
        exact (List.nodup_append.mp hall).2.2 raw hbefore raw hraw rfl
      exact ⟨(heldRaws_settleBase hnew).trans (hheld.append_right _), hexact.settleBase hnew⟩

/-- The second pass over raw names that are all different takes only the names it gives. -/
theorem secondPass_exact (losers : List (String × String)) :
    ∀ {state : Batch}, state.Exact start →
      (keys state.assigned ++ losers.map (·.2)).Nodup →
      (losers.foldl settleLoser state).Exact start := by
  induction losers with
  | nil => exact fun hexact _ => hexact
  | cons loser losers ih =>
      intro state hexact hnodup
      have hraw : loser.2 ∉ keys state.assigned := fun hkey =>
        (List.nodup_append.mp hnodup).2.2 _ hkey _ List.mem_cons_self rfl
      refine ih (hexact.give hraw _) ?_
      show (keys (setName loser.2 _ state.assigned) ++ _).Nodup
      rw [setName_of_not_mem hraw, keys, List.map_append, List.append_assoc]
      exact hnodup

/-- A batch with one base for each raw name takes the names it gives, and no other. -/
theorem assign_exact (scope : Scope) (hsingle : SingleBased batch) :
    name ∈ (assign scope batch).2.taken ↔
      name ∈ scope.taken ∨ name ∈ values (assign scope batch).1 := by
  obtain ⟨-, hgiven, hgrows⟩ := assign_fresh scope batch
  constructor
  · have hbases := nodup_sortedDistinct (batch.map (·.2))
    obtain ⟨hheld, hexact⟩ := firstPass_exact scope hsingle _ hbases
    rw [assign_eq, settledBatch]
    generalize (sortedDistinct (batch.map (·.2))).foldl (settleBase batch) { scope := scope } =
      settled at hheld hexact
    refine secondPass_exact _ hexact ?_ name
    have hsorted : (settled.losers.mergeSort loserLe).Perm settled.losers :=
      List.mergeSort_perm _ _
    exact ((((hsorted.map (·.2)).append_left _).trans hheld).nodup_iff).mpr
      (nodup_flatMap_membersOf hsingle hbases)
  · rintro (hold | hnew)
    · exact hgrows hold
    · exact (hgiven name hnew).2

end Exact

section Requests

/-- What a scope is asked for. -/
inductive Request where
  /-- Names for a batch of raw names with their base names. -/
  | assign (batch : List (String × String))
  /-- The first free name of a candidate and some others. -/
  | claim (candidate : String) (others : List String)
  /-- A name that is not given out any more. -/
  | reserve (name : String)

/-- What a scope answers. -/
inductive Answer where
  /-- The names of a batch, by raw name. -/
  | names (entries : List (String × String))
  | name (name : String)
  | done

/-- The names that an answer gives out. -/
def Answer.given : Answer → List String
  | .names entries => values entries
  | .name claimed => [claimed]
  | .done => []

/-- The answer to a request, with the scope afterwards. -/
def answer? (scope : Scope) : Request → Option (Answer × Scope)
  | .assign batch => some (.names (scope.assign batch).1, (scope.assign batch).2)
  | .claim candidate others =>
    (scope.claim? (candidate :: others)).map fun claimed => (.name claimed.1, claimed.2)
  | .reserve name => some (.done, scope.reserve name)

/-- A request that was answered, with the scope before and after. -/
structure Grant where
  request : Request
  before : Scope
  answer : Answer
  after : Scope

/-- The requests answered one after the other, with the scope afterwards. -/
def serve? (scope : Scope) : List Request → Option (List Grant × Scope)
  | [] => some ([], scope)
  | request :: requests => do
    let (answer, after) ← scope.answer? request
    let (grants, last) ← after.serve? requests
    return ({ request := request, before := scope, answer := answer, after := after } :: grants,
      last)

/-- What an answered request promises. -/
structure Grant.Sound (g : Grant) : Prop where
  answered : g.before.answer? g.request = some (g.answer, g.after)
  distinct : g.answer.given.Nodup
  new : ∀ name ∈ g.answer.given, name ∉ g.before.taken
  taken : ∀ name ∈ g.answer.given, name ∈ g.after.taken
  grows : g.before.taken ⊆ g.after.taken
  /-- A batch gets one name for each of its raw names, and when each of these comes with a single
  base, the scope takes exactly the names of the batch. -/
  assigned : ∀ batch, g.request = .assign batch → ∃ names, g.answer = .names names ∧
    (keys names).Nodup ∧ (∀ raw, raw ∈ keys names ↔ raw ∈ keys batch) ∧
    (SingleBased batch →
      ∀ name, name ∈ g.after.taken ↔ name ∈ g.before.taken ∨ name ∈ values names)
  /-- A claim gets one name, which the scope takes. -/
  claimed : ∀ candidate others, g.request = .claim candidate others → ∃ name,
    g.answer = .name name ∧
      ∀ other, other ∈ g.after.taken ↔ other ∈ g.before.taken ∨ other = name
  reserved : ∀ name, g.request = .reserve name → g.answer = .done ∧
    ∀ other, other ∈ g.after.taken ↔ other ∈ g.before.taken ∨ other = name

variable {scope last : Scope} {answer : Answer} {request : Request} {requests : List Request}
variable {grants : List Grant}

theorem mem_keys_assign (scope : Scope) (batch : List (String × String)) :
    (keys (assign scope batch).1).Nodup ∧
      ∀ raw, raw ∈ keys (assign scope batch).1 ↔ raw ∈ keys batch := by
  obtain ⟨hfresh, hpairs, hnamed⟩ := settledBatch_invariants scope batch
  rw [assign_eq]
  refine ⟨hfresh.keys, fun raw => ⟨fun hraw => ?_, fun hraw => ?_⟩⟩
  · obtain ⟨⟨r, name⟩, hentry, rfl⟩ := List.mem_map.mp hraw
    obtain ⟨base, -, hpair, -⟩ := hpairs.assigned r name hentry
    exact List.mem_map.mpr ⟨(r, base), hpair, rfl⟩
  · obtain ⟨⟨r, base⟩, hpair, rfl⟩ := List.mem_map.mp hraw
    exact hnamed r base hpair

/-- Every request is answered. -/
theorem exists_answer (scope : Scope) (request : Request) :
    ∃ answer after, scope.answer? request = some (answer, after) := by
  cases request with
  | assign batch => exact ⟨_, _, rfl⟩
  | claim candidate others =>
      obtain ⟨name, -, hclaim⟩ := claim?_fresh scope (List.cons_ne_nil candidate others)
      exact ⟨.name name, _, by rw [answer?, hclaim]; rfl⟩
  | reserve name => exact ⟨_, _, rfl⟩

/-- One request: what it gives was free, and nothing that was taken gets free. -/
theorem Grant.Sound.of_answer {after : Scope} (h : scope.answer? request = some (answer, after)) :
    Grant.Sound { request := request, before := scope, answer := answer, after := after } := by
  cases request with
  | assign batch =>
      obtain ⟨rfl, rfl⟩ := Prod.mk.inj (Option.some.inj h)
      obtain ⟨hdistinct, hgiven, hgrows⟩ := assign_fresh scope batch
      obtain ⟨hkeys, hraws⟩ := mem_keys_assign scope batch
      refine ⟨h, hdistinct, fun name hname => (hgiven name hname).1,
        fun name hname => (hgiven name hname).2, hgrows, ?_, nofun, nofun⟩
      intro _ hbatch
      obtain rfl := Request.assign.inj hbatch
      exact ⟨_, rfl, hkeys, hraws, fun hsingle name => assign_exact scope hsingle⟩
  | claim candidate others =>
      obtain ⟨name, hfree, hclaim⟩ := claim?_fresh scope (List.cons_ne_nil candidate others)
      rw [answer?, hclaim] at h
      obtain ⟨rfl, rfl⟩ := Prod.mk.inj (Option.some.inj h)
      have htaken : ∀ other, other ∈ scope.taken ++ [name] ↔ other ∈ scope.taken ∨ other = name :=
        fun other => by rw [List.mem_append, List.mem_singleton]
      refine ⟨by rw [answer?, hclaim]; rfl, List.nodup_singleton name,
        List.forall_mem_singleton.mpr hfree,
        List.forall_mem_singleton.mpr ((htaken name).mpr (.inr rfl)),
        List.subset_append_left _ _, nofun, fun _ _ _ => ⟨name, rfl, htaken⟩, nofun⟩
  | reserve name =>
      obtain ⟨rfl, rfl⟩ := Prod.mk.inj (Option.some.inj h)
      refine ⟨h, List.nodup_nil, fun _ hname => absurd hname List.not_mem_nil,
        fun _ hname => absurd hname List.not_mem_nil,
        fun other hother => mem_reserve.mpr (.inl hother), nofun, nofun, ?_⟩
      intro _ hname
      obtain rfl := Request.reserve.inj hname
      exact ⟨rfl, fun other => mem_reserve⟩

theorem serve?_cons_eq_some
    (h : scope.serve? (request :: requests) = some (grants, last)) :
    ∃ answer after rest, scope.answer? request = some (answer, after) ∧
      after.serve? requests = some (rest, last) ∧
      grants = { request := request, before := scope, answer := answer, after := after } :: rest := by
  obtain ⟨⟨answer, after⟩, hanswer, hrest⟩ := Option.bind_eq_some_iff.mp h
  obtain ⟨⟨rest, last'⟩, hserve, hreturn⟩ := Option.bind_eq_some_iff.mp hrest
  obtain ⟨rfl, rfl⟩ := Prod.mk.inj (Option.some.inj hreturn)
  exact ⟨answer, after, rest, hanswer, hserve, rfl⟩

theorem exists_serve (requests : List Request) :
    ∀ scope : Scope, ∃ grants last, scope.serve? requests = some (grants, last) := by
  induction requests with
  | nil => exact fun scope => ⟨[], scope, rfl⟩
  | cons request requests ih =>
      intro scope
      obtain ⟨answer, after, hanswer⟩ := exists_answer scope request
      obtain ⟨grants, last, hserve⟩ := ih after
      refine ⟨{ request := request, before := scope, answer := answer, after := after } :: grants,
        last, ?_⟩
      simp only [serve?, hanswer, hserve, Option.bind_eq_bind, Option.bind_some, Option.pure_def]

/-- What a run of requests has given out, seen from the scope that it started with. -/
structure Served (scope : Scope) (requests : List Request) (grants : List Grant) (last : Scope) :
    Prop where
  requests : grants.map (·.request) = requests
  sound : ∀ g ∈ grants, g.Sound
  /-- No name is given out twice. -/
  distinct : (grants.flatMap (·.answer.given)).Nodup
  new : ∀ name ∈ grants.flatMap (·.answer.given), name ∉ scope.taken
  taken : ∀ name ∈ grants.flatMap (·.answer.given), name ∈ last.taken
  /-- The scope loses no name, from one request to any later one. -/
  grows : scope.taken ⊆ last.taken
  between : grants.Pairwise fun g later => g.after.taken ⊆ later.before.taken
  since : ∀ g ∈ grants, scope.taken ⊆ g.before.taken ∧ g.after.taken ⊆ last.taken

theorem Served.of_serve (requests : List Request) :
    ∀ {scope : Scope} {grants : List Grant}, scope.serve? requests = some (grants, last) →
      Served scope requests grants last := by
  induction requests with
  | nil =>
      intro scope grants h
      obtain ⟨rfl, rfl⟩ := Prod.mk.inj (Option.some.inj h)
      exact ⟨rfl, nofun, List.nodup_nil, nofun, nofun, List.Subset.refl _, .nil, nofun⟩
  | cons request requests ih =>
      intro scope grants h
      obtain ⟨answer, after, rest, hanswer, hserve, rfl⟩ := serve?_cons_eq_some h
      have hfirst := Grant.Sound.of_answer hanswer
      have hrest := ih hserve
      have hlater : ∀ name ∈ rest.flatMap (·.answer.given), name ∉ scope.taken := fun name hname =>
        fun hmem => hrest.new name hname (hfirst.grows hmem)
      refine ⟨congrArg _ hrest.requests, List.forall_mem_cons.mpr ⟨hfirst, hrest.sound⟩,
        ?_, ?_, ?_, fun name hname => hrest.grows (hfirst.grows hname), ?_, ?_⟩
      · -- A later name was not taken after the first request, where the first names are.
        rw [List.flatMap_cons, List.nodup_append]
        refine ⟨hfirst.distinct, hrest.distinct, fun name hname other hother heq => ?_⟩
        exact hrest.new other hother (heq ▸ hfirst.taken name hname)
      · intro name hname
        rw [List.flatMap_cons] at hname
        exact (List.mem_append.mp hname).elim (hfirst.new name) (hlater name)
      · intro name hname
        rw [List.flatMap_cons] at hname
        exact (List.mem_append.mp hname).elim
          (fun hname => hrest.grows (hfirst.taken name hname)) (hrest.taken name)
      · exact List.pairwise_cons.mpr ⟨fun g hg => (hrest.since g hg).1, hrest.between⟩
      · refine List.forall_mem_cons.mpr ⟨⟨List.Subset.refl _, hrest.grows⟩, fun g hg => ?_⟩
        exact ⟨fun name hname => (hrest.since g hg).1 (hfirst.grows hname), (hrest.since g hg).2⟩

/-- Every run of requests over any names that are taken is answered to its end, every search for
a number on the way ends, and no name is given out that was taken or given out before. -/
theorem requests_never_repeat_a_name (taken : List String) (requests : List Request) :
    (∀ (scope : Scope) (base : String), ∃ n,
      Counts scope base 2 n ∧ scope.numbered base = numberedName base n) ∧
    ∃ grants last, serve? { taken := taken } requests = some (grants, last) ∧
      Served { taken := taken } requests grants last := by
  obtain ⟨grants, last, hserve⟩ := exists_serve requests { taken := taken }
  exact ⟨exists_counts, grants, last, hserve, Served.of_serve requests hserve⟩

end Requests

end Scope
end Name
end TableCast
