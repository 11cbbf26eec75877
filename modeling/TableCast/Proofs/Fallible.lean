import Mathlib

/-!
# Computations that may fail

What a successful sequence of fallible steps says about each of its steps.

**Results.**
* `bind_eq_ok`, `exists_bind_iff`, `map_eq_ok`, `mapError_eq_ok`: inversion of one step.
* `mapM_eq_ok`: a traversal succeeds exactly when every step does, one result for each
  element.
* `exists_of_mem_right`, `exists_of_mem_left`: partners in two lists related element by element.
* `find?_of_forall₂`, `flatMap_of_forall₂`, `forall₂_of_common`: such lists searched and collected,
  and two of them with one list in common.
* `exists_of_mem_mapM`: every result of a traversal is the result of a step.
* `forM_eq_ok`, `exists_of_forM_error`: a check of all elements succeeds exactly when every check
  does, and fails for one of them.
* `foldlM_ok_induction`, `exists_of_foldlM_error`: what every step of a fold preserves holds of its
  result, and a fold that fails does so at one of the elements.
* `mapM_total`, `exists_mapM_iff`, `foldlM_total`: a computation whose steps all succeed.
-/

namespace TableCast
namespace Fallible

universe u

variable {ε ε' : Type u} {α β σ : Type}

theorem bind_eq_ok
    {x : Except ε α} {f : α → Except ε β} {b : β} :
    (x >>= f) = .ok b ↔ ∃ a, x = .ok a ∧ f a = .ok b := by
  cases x with
  | error e => simp [bind, Except.bind]
  | ok a => simp [bind, Except.bind]

theorem map_eq_ok
    {x : Except ε α} {f : α → β} {b : β} :
    x.map f = .ok b ↔ ∃ a, x = .ok a ∧ f a = b := by
  cases x with
  | error e => simp [Except.map]
  | ok a => simp [Except.map]

/-- A step succeeds when both of its parts do. -/
theorem exists_bind_iff
    {x : Except ε α} {f : α → Except ε β} :
    (∃ b, (x >>= f) = .ok b) ↔ ∃ a, x = .ok a ∧ ∃ b, f a = .ok b := by
  simp only [bind_eq_ok]
  rw [exists_comm]
  exact exists_congr fun a => exists_and_left

theorem mapError_eq_ok
    {x : Except ε α} {f : ε → ε'} {a : α} :
    x.mapError f = .ok a ↔ x = .ok a := by
  cases x with
  | error e => simp [Except.mapError]
  | ok a => simp [Except.mapError]

theorem pure_eq_ok {a b : α} :
    (pure a : Except ε α) = .ok b ↔ a = b := by
  simp [pure, Except.pure]

theorem exists_of_isOk {x : Except ε α} (h : x.isOk = true) : ∃ a, x = .ok a := by
  cases x with
  | error e => cases h
  | ok a => exact ⟨a, rfl⟩

/-- A traversal succeeds exactly when every step does. -/
theorem mapM_eq_ok
    {f : α → Except ε β} {xs : List α} {ys : List β} :
    xs.mapM f = .ok ys ↔ List.Forall₂ (fun x y => f x = .ok y) xs ys := by
  induction xs generalizing ys with
  | nil =>
      rw [List.mapM_nil, pure_eq_ok, List.forall₂_nil_left_iff]
      exact eq_comm
  | cons x xs ih =>
      rw [List.mapM_cons, bind_eq_ok, List.forall₂_cons_left_iff]
      constructor
      · rintro ⟨y, hy, h⟩
        obtain ⟨rest, hrest, h⟩ := bind_eq_ok.mp h
        exact ⟨y, rest, hy, ih.mp hrest, (pure_eq_ok.mp h).symm⟩
      · rintro ⟨y, rest, hy, hrest, rfl⟩
        exact ⟨y, hy, bind_eq_ok.mpr ⟨rest, ih.mpr hrest, rfl⟩⟩

/-- In two lists related element by element, every right element has a left one. -/
theorem exists_of_mem_right
    {R : α → β → Prop} {xs : List α} {ys : List β} {y : β}
    (h : List.Forall₂ R xs ys) (hy : y ∈ ys) :
    ∃ x ∈ xs, R x y := by
  induction h with
  | nil => exact absurd hy List.not_mem_nil
  | cons hfirst _ ih =>
      rcases List.mem_cons.mp hy with rfl | hy
      · exact ⟨_, List.mem_cons_self .., hfirst⟩
      · obtain ⟨x, hx, hrel⟩ := ih hy
        exact ⟨x, List.mem_cons_of_mem _ hx, hrel⟩

/-- And every left element has a right one. -/
theorem exists_of_mem_left
    {R : α → β → Prop} {xs : List α} {ys : List β} {x : α}
    (h : List.Forall₂ R xs ys) (hx : x ∈ xs) :
    ∃ y ∈ ys, R x y :=
  exists_of_mem_right (List.Forall₂.flip h) hx

/-- A search that takes partners alike finds partners, or nothing in both lists. -/
theorem find?_of_forall₂
    {R : α → β → Prop} {p : α → Bool} {q : β → Bool} {xs : List α} {ys : List β}
    (h : List.Forall₂ R xs ys) (hpq : ∀ x y, R x y → p x = q y) :
    Option.Rel R (xs.find? p) (ys.find? q) := by
  induction h with
  | nil => exact .none
  | @cons x y xs ys hfirst _ ih =>
      rw [List.find?_cons, List.find?_cons, hpq x y hfirst]
      cases q y with
      | true => exact .some hfirst
      | false => exact ih

/-- What partners give alike is the same when it is collected. -/
theorem flatMap_of_forall₂
    {γ : Type} {R : α → β → Prop} {f : α → List γ} {g : β → List γ} {xs : List α} {ys : List β}
    (h : List.Forall₂ R xs ys) (hfg : ∀ x ∈ xs, ∀ y, R x y → f x = g y) :
    xs.flatMap f = ys.flatMap g := by
  induction h with
  | nil => rfl
  | cons hfirst _ ih =>
      obtain ⟨hx, hxs⟩ := List.forall_mem_cons.mp hfg
      rw [List.flatMap_cons, List.flatMap_cons, hx _ hfirst, ih hxs]

theorem isSome_eq_of_rel {R : α → β → Prop} {x : Option α} {y : Option β} (h : Option.Rel R x y) :
    x.isSome = y.isSome := by
  cases h with
  | none => rfl
  | some _ => rfl

/-- Two lists that are related element by element to a third one are related to each other. -/
theorem forall₂_of_common
    {γ : Type} {R : α → β → Prop} {S : α → γ → Prop} {T : β → γ → Prop}
    (hRS : ∀ x y z, R x y → S x z → T y z) {xs : List α} {ys : List β} {zs : List γ}
    (hR : List.Forall₂ R xs ys) (hS : List.Forall₂ S xs zs) :
    List.Forall₂ T ys zs := by
  induction hR generalizing zs with
  | nil =>
      cases hS
      exact List.Forall₂.nil
  | cons hfirst _ ih =>
      cases hS with
      | cons hfirst' hrest => exact List.Forall₂.cons (hRS _ _ _ hfirst hfirst') (ih hrest)

/-- Every result of a traversal is the result of a step. -/
theorem exists_of_mem_mapM
    {f : α → Except ε β} {xs : List α} {ys : List β} {y : β}
    (h : xs.mapM f = .ok ys) (hy : y ∈ ys) :
    ∃ x ∈ xs, f x = .ok y :=
  exists_of_mem_right (mapM_eq_ok.mp h) hy

/-- A check of all elements succeeds exactly when every check does. -/
theorem forM_eq_ok
    {f : α → Except ε Unit} {xs : List α} :
    xs.forM f = .ok () ↔ ∀ x ∈ xs, f x = .ok () := by
  induction xs with
  | nil => simp [pure, Except.pure]
  | cons x xs ih =>
      show (f x >>= fun _ => xs.forM f) = .ok () ↔ _
      rw [bind_eq_ok, List.forall_mem_cons, ← ih]
      constructor
      · rintro ⟨⟨⟩, hx, hxs⟩
        exact ⟨hx, hxs⟩
      · rintro ⟨hx, hxs⟩
        exact ⟨⟨⟩, hx, hxs⟩

/-- A check that fails does so for one of the elements. -/
theorem exists_of_forM_error
    {f : α → Except ε Unit} {xs : List α} {e : ε} (h : xs.forM f = .error e) :
    ∃ x ∈ xs, f x = .error e := by
  induction xs with
  | nil => cases h
  | cons x xs ih =>
      change (f x >>= fun _ => xs.forM f) = .error e at h
      cases hx : f x with
      | error e' =>
          rw [hx] at h
          exact ⟨x, List.mem_cons_self .., hx.trans h⟩
      | ok _ =>
          rw [hx] at h
          obtain ⟨y, hy, herror⟩ := ih h
          exact ⟨y, List.mem_cons_of_mem _ hy, herror⟩

/-- A fold that fails does so at one of the elements. -/
theorem exists_of_foldlM_error
    {f : σ → α → Except ε σ} {xs : List α} {start : σ} {e : ε}
    (h : xs.foldlM f start = .error e) :
    ∃ x ∈ xs, ∃ s, f s x = .error e := by
  induction xs generalizing start with
  | nil => cases h
  | cons x xs ih =>
      rw [List.foldlM_cons] at h
      cases hx : f start x with
      | error e' =>
          rw [hx] at h
          exact ⟨x, List.mem_cons_self .., start, hx.trans h⟩
      | ok next =>
          rw [hx] at h
          obtain ⟨y, hy, herror⟩ := ih h
          exact ⟨y, List.mem_cons_of_mem _ hy, herror⟩

/-- What every step of a fold preserves, with the elements already taken, holds of its
result. -/
theorem foldlM_ok_induction
    {f : σ → α → Except ε σ} {motive : List α → σ → Prop}
    {xs : List α} {start done : σ}
    (hstart : motive [] start)
    (hstep : ∀ before x s s', x ∈ xs → motive before s → f s x = .ok s' →
      motive (before ++ [x]) s')
    (h : xs.foldlM f start = .ok done) :
    motive xs done := by
  suffices hgen : ∀ before rest s, before ++ rest = xs → motive before s →
      rest.foldlM f s = .ok done → motive xs done from
    hgen [] xs start rfl hstart h
  intro before rest
  induction rest generalizing before with
  | nil =>
      intro s hxs hs hdone
      rw [List.append_nil] at hxs
      rw [List.foldlM_nil, pure_eq_ok] at hdone
      rwa [← hxs, ← hdone]
  | cons x rest ih =>
      intro s hxs hs hdone
      rw [List.foldlM_cons, bind_eq_ok] at hdone
      obtain ⟨s', hs', hdone⟩ := hdone
      have hx : x ∈ xs := hxs ▸ by simp
      exact ih (before ++ [x]) s' (by simpa using hxs) (hstep before x s s' hx hs hs') hdone

section Total

/-- A traversal whose steps all succeed. -/
theorem mapM_total
    {f : α → Except ε β} {xs : List α}
    (h : ∀ x ∈ xs, ∃ y, f x = .ok y) :
    ∃ ys, xs.mapM f = .ok ys := by
  induction xs with
  | nil => exact ⟨[], rfl⟩
  | cons x xs ih =>
      obtain ⟨hx, hxs⟩ := List.forall_mem_cons.mp h
      obtain ⟨y, hy⟩ := hx
      obtain ⟨ys, hys⟩ := ih hxs
      exact ⟨y :: ys, mapM_eq_ok.mpr (List.Forall₂.cons hy (mapM_eq_ok.mp hys))⟩

/-- And one that succeeds has made every step. -/
theorem exists_mapM_iff
    {f : α → Except ε β} {xs : List α} :
    (∃ ys, xs.mapM f = .ok ys) ↔ ∀ x ∈ xs, ∃ y, f x = .ok y := by
  constructor
  · rintro ⟨ys, hys⟩ x hx
    obtain ⟨y, -, hy⟩ := exists_of_mem_left (mapM_eq_ok.mp hys) hx
    exact ⟨y, hy⟩
  · exact mapM_total

/-- A fold whose steps all succeed, from any state. -/
theorem foldlM_total
    {f : σ → α → Except ε σ} {xs : List α}
    (h : ∀ x ∈ xs, ∀ s, ∃ s', f s x = .ok s') :
    ∀ start, ∃ done, xs.foldlM f start = .ok done := by
  induction xs with
  | nil => exact fun start => ⟨start, rfl⟩
  | cons x xs ih =>
      intro start
      obtain ⟨hx, hxs⟩ := List.forall_mem_cons.mp h
      obtain ⟨next, hnext⟩ := hx start
      obtain ⟨done, hdone⟩ := ih hxs next
      exact ⟨done, by rw [List.foldlM_cons, hnext]; exact hdone⟩

end Total

end Fallible
end TableCast
