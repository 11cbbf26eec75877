import Mathlib

/-!
# Lists in another order

When sorting, searching and testing a list give the same result for every order of its
elements.

**Results.**
* `mergeSort_eq_of_perm`: sorting by an order that no two different elements share.
* `mergeSort_eq_of_keys`, `pairwise_mergeSort_of_keys`: sorting by distinct keys.
* `mergeSort_eq_of_parts`: sorting lists with the same elements in each class of equal ones.
* `find?_eq_of_perm`: searching for what at most one element is.
* `any_eq_of_perm`: testing whether some element passes.
* `filter_flatMap_of_owner`: one part of a list that is made of parts.
* `filter_eq_singleton`: the element of a list that has a key.
* `filter_filterMap_of_imp`: which elements the images that pass a test come from.
* `nodup_map_iff_of_parts`: images that are distinct in each part of a list.
* `nodup_flatMap_iff_of_keys`: lists put together that are distinct when no two of them meet.
* `nodup_eraseDups`, `eraseDups_concat`: a list without its repetitions.
* `pairwise_idxOf_eraseDups`: its elements stand in the order in which they first occur.
-/

namespace TableCast
namespace Reordering

universe u v

variable {α : Type u}

section Sorting

variable {le : α → α → Bool}

/-- Two orders of a list sort alike when no two different elements come both before each
other. -/
theorem mergeSort_eq_of_perm
    (trans : ∀ a b c, le a b = true → le b c = true → le a c = true)
    (total : ∀ a b, (le a b || le b a) = true)
    {xs ys : List α}
    (antisymm : ∀ a ∈ xs, ∀ b ∈ xs, le a b = true → le b a = true → a = b)
    (h : xs.Perm ys) :
    xs.mergeSort le = ys.mergeSort le := by
  have hsorted : (xs.mergeSort le).Perm (ys.mergeSort le) :=
    ((List.mergeSort_perm xs le).trans h).trans (List.mergeSort_perm ys le).symm
  refine List.Perm.eq_of_pairwise ?_ (List.pairwise_mergeSort trans total xs)
    (List.pairwise_mergeSort trans total ys) hsorted
  intro a b ha hb hab hba
  have hb' : b ∈ xs := h.mem_iff.mpr (List.mem_mergeSort.mp hb)
  exact antisymm a (List.mem_mergeSort.mp ha) b hb' hab hba

variable {β : Type v} [LinearOrder β] {f : α → β} {xs ys : List α}

theorem trans_of_keys (hle : ∀ a b, le a b = true ↔ f a ≤ f b) (a b c : α) :
    le a b = true → le b c = true → le a c = true := by
  simp only [hle]
  exact le_trans

theorem total_of_keys (hle : ∀ a b, le a b = true ↔ f a ≤ f b) (a b : α) :
    (le a b || le b a) = true := by
  rw [Bool.or_eq_true, hle, hle]
  exact le_total _ _

/-- Two orders of a list sort alike by distinct keys. -/
theorem mergeSort_eq_of_keys (hle : ∀ a b, le a b = true ↔ f a ≤ f b)
    (hdistinct : (xs.map f).Nodup) (h : xs.Perm ys) : xs.mergeSort le = ys.mergeSort le := by
  refine mergeSort_eq_of_perm (trans_of_keys hle) (total_of_keys hle) ?_ h
  intro a ha b hb hab hba
  exact List.inj_on_of_nodup_map hdistinct ha hb (le_antisymm ((hle a b).mp hab) ((hle b a).mp hba))

/-- A list that is sorted by distinct keys has them in increasing order. -/
theorem pairwise_mergeSort_of_keys (hle : ∀ a b, le a b = true ↔ f a ≤ f b)
    (hdistinct : (xs.map f).Nodup) : (xs.mergeSort le).Pairwise (f · < f ·) := by
  have hsorted := List.pairwise_mergeSort (trans_of_keys hle) (total_of_keys hle) xs
  have hkeys : ((xs.mergeSort le).map f).Nodup :=
    ((List.mergeSort_perm xs le).map f).nodup_iff.mpr hdistinct
  refine (hsorted.and (List.pairwise_map.mp hkeys)).imp ?_
  rintro a b ⟨hab, hne⟩
  exact lt_of_le_of_ne ((hle a b).mp hab) hne

end Sorting

section Stability

variable {cmp : α → α → Ordering} [Std.TransCmp cmp] {xs ys : List α}

theorem isLE_total (a b : α) : ((cmp a b).isLE || (cmp b a).isLE) = true := by
  rw [@Std.OrientedCmp.eq_swap α cmp _ b a]
  cases cmp a b with
  | lt => rfl
  | eq => rfl
  | gt => rfl

/-- Sorting keeps the order of the elements that compare equal to a given one. -/
theorem filter_mergeSort (a : α) (xs : List α) :
    (xs.mergeSort fun b c => (cmp b c).isLE).filter (fun b => cmp a b == .eq) =
      xs.filter (fun b => cmp a b == .eq) := by
  have hclass : (xs.filter fun b => cmp a b == .eq).Pairwise fun b c => (cmp b c).isLE = true := by
    refine List.pairwise_of_forall_mem_list fun b hb c hc => ?_
    have hb' := beq_iff_eq.mp (List.mem_filter.mp hb).2
    have hc' := beq_iff_eq.mp (List.mem_filter.mp hc).2
    have heq : cmp b c = .eq := Std.TransCmp.eq_trans (Std.OrientedCmp.eq_symm hb') hc'
    rw [heq]
    rfl
  have hkept := (List.sublist_mergeSort (fun _ _ _ => Std.TransCmp.isLE_trans) isLE_total hclass
    List.filter_sublist).filter fun b => cmp a b == .eq
  rw [List.filter_filter] at hkept
  simp only [Bool.and_self] at hkept
  refine (hkept.eq_of_length ?_).symm
  exact ((List.mergeSort_perm xs _).filter _).length_eq.symm

/-- Two sorted lists with the same elements in every class of equal ones are the same. -/
theorem eq_of_sorted_of_parts
    (hxs : xs.Pairwise fun a b => (cmp a b).isLE = true)
    (hys : ys.Pairwise fun a b => (cmp a b).isLE = true)
    (h : ∀ a, xs.filter (fun b => cmp a b == .eq) = ys.filter (fun b => cmp a b == .eq)) :
    xs = ys := by
  have hself : ∀ a : α, (cmp a a == .eq) = true := fun a => beq_iff_eq.mpr Std.ReflCmp.compare_self
  have hmem : ∀ {us vs : List α},
      (∀ a, us.filter (fun b => cmp a b == .eq) = vs.filter (fun b => cmp a b == .eq)) →
      us ⊆ vs := by
    intro us vs huv a ha
    have hclass : a ∈ us.filter (fun b => cmp a b == .eq) := List.mem_filter.mpr ⟨ha, hself a⟩
    rw [huv] at hclass
    exact (List.mem_filter.mp hclass).1
  induction xs generalizing ys with
  | nil => exact (List.subset_nil.mp (hmem fun a => (h a).symm)).symm
  | cons a xs ih =>
      cases ys with
      | nil => exact absurd (hmem h (List.mem_cons_self ..)) List.not_mem_nil
      | cons b ys =>
          -- The first elements come each before the other, so they begin one class.
          have hfirst : ∀ {c d : α} {cs : List α},
              (c :: cs).Pairwise (fun a b => (cmp a b).isLE = true) →
              d ∈ c :: cs → (cmp c d).isLE = true := by
            intro c d cs hsorted hd
            rcases List.mem_cons.mp hd with rfl | hd
            · rw [beq_iff_eq.mp (hself d)]
              rfl
            · exact List.rel_of_pairwise_cons hsorted hd
          have hab := hfirst hxs (hmem (fun c => (h c).symm) (List.mem_cons_self ..))
          have hba := hfirst hys (hmem h (List.mem_cons_self ..))
          have heq := Std.OrientedCmp.isLE_antisymm hab hba
          have hclass := h a
          rw [List.filter_cons, List.filter_cons, if_pos (hself a), if_pos (beq_iff_eq.mpr heq)]
            at hclass
          obtain ⟨rfl, -⟩ := List.cons.inj hclass
          rw [ih (List.pairwise_cons.mp hxs).2 (List.pairwise_cons.mp hys).2 fun c => ?_]
          have hc := h c
          rw [List.filter_cons, List.filter_cons] at hc
          split_ifs at hc
          · exact (List.cons.inj hc).2
          · exact hc

/-- Two lists sort alike when they have the same elements in every class of equal ones. -/
theorem mergeSort_eq_of_parts
    (h : ∀ a, xs.filter (fun b => cmp a b == .eq) = ys.filter (fun b => cmp a b == .eq)) :
    xs.mergeSort (fun a b => (cmp a b).isLE) = ys.mergeSort (fun a b => (cmp a b).isLE) := by
  refine eq_of_sorted_of_parts
    (List.pairwise_mergeSort (fun _ _ _ => Std.TransCmp.isLE_trans) isLE_total xs)
    (List.pairwise_mergeSort (fun _ _ _ => Std.TransCmp.isLE_trans) isLE_total ys) fun a => ?_
  rw [filter_mergeSort, filter_mergeSort, h]

end Stability

/-- A search finds the same in every order when at most one element passes. -/
theorem find?_eq_of_perm
    {p : α → Bool} {xs ys : List α}
    (unique : ∀ a ∈ xs, ∀ b ∈ xs, p a = true → p b = true → a = b)
    (h : xs.Perm ys) :
    xs.find? p = ys.find? p := by
  cases hx : xs.find? p with
  | none =>
      have hnone : ∀ a ∈ ys, ¬ p a = true := fun a ha =>
        List.find?_eq_none.mp hx a (h.mem_iff.mpr ha)
      exact (List.find?_eq_none.mpr hnone).symm
  | some a =>
      have ha := List.mem_of_find?_eq_some hx
      cases hy : ys.find? p with
      | none =>
          exact absurd (List.find?_some hx)
            (List.find?_eq_none.mp hy a (h.mem_iff.mp ha))
      | some b =>
          have hb : b ∈ xs := h.mem_iff.mpr (List.mem_of_find?_eq_some hy)
          rw [unique a ha b hb (List.find?_some hx) (List.find?_some hy)]

theorem any_eq_of_perm
    {p : α → Bool} {xs ys : List α}
    (h : xs.Perm ys) :
    xs.any p = ys.any p := by
  rw [Bool.eq_iff_iff, List.any_eq_true, List.any_eq_true]
  constructor
  · rintro ⟨a, ha, hp⟩
    exact ⟨a, h.mem_iff.mp ha, hp⟩
  · rintro ⟨a, ha, hp⟩
    exact ⟨a, h.mem_iff.mpr ha, hp⟩

/-- In a list made of parts, what belongs to one part is that part. -/
theorem filter_flatMap_of_owner
    {β κ : Type} {f : α → List β} {key : α → κ} {p : β → Bool} {xs : List α} {x : α}
    (hx : x ∈ xs) (hnodup : (xs.map key).Nodup)
    (hown : ∀ y ∈ f x, p y = true)
    (hother : ∀ z ∈ xs, key z ≠ key x → ∀ y ∈ f z, p y = false) :
    (xs.flatMap f).filter p = f x := by
  induction xs with
  | nil => exact absurd hx List.not_mem_nil
  | cons z xs ih =>
      obtain ⟨hz, hxs⟩ := List.nodup_cons.mp hnodup
      have hrest : ∀ w ∈ xs, key w ≠ key x → ∀ y ∈ f w, p y = false := fun w hw =>
        hother w (List.mem_cons_of_mem _ hw)
      rw [List.flatMap_cons, List.filter_append]
      rcases List.mem_cons.mp hx with rfl | hx
      · have hnone : (xs.flatMap f).filter p = [] := by
          rw [List.filter_eq_nil_iff]
          intro y hy
          obtain ⟨w, hw, hyw⟩ := List.mem_flatMap.mp hy
          have hne : key w ≠ key x := fun he => hz (he ▸ List.mem_map_of_mem hw)
          rw [hrest w hw hne y hyw]
          exact Bool.false_ne_true
        rw [List.filter_eq_self.mpr hown, hnone, List.append_nil]
      · have hne : key z ≠ key x := fun he => hz (he ▸ List.mem_map_of_mem hx)
        have hnone : (f z).filter p = [] := by
          rw [List.filter_eq_nil_iff]
          intro y hy
          rw [hother z (List.mem_cons_self ..) hne y hy]
          exact Bool.false_ne_true
        rw [hnone, List.nil_append, ih hx hxs hrest]

/-- Of elements with different keys, one has the key of a given one. -/
theorem filter_eq_singleton
    {β κ : Type} [BEq κ] [LawfulBEq κ] {key : β → κ} {xs : List β} {x : β}
    (hx : x ∈ xs) (hnodup : (xs.map key).Nodup) :
    xs.filter (fun y => key y == key x) = [x] := by
  have hself : ∀ y ∈ [x], (key y == key x) = true := by
    intro y hy
    rw [List.mem_singleton.mp hy, beq_self_eq_true]
  have hother : ∀ z ∈ xs, key z ≠ key x → ∀ y ∈ [z], (key y == key x) = false := by
    intro z _ hne y hy
    rw [List.mem_singleton.mp hy]
    exact beq_eq_false_iff_ne.mpr hne
  have hparts := filter_flatMap_of_owner (f := fun y => [y]) hx hnodup hself hother
  rwa [List.flatMap_singleton'] at hparts

/-- Images of elements of different parts differ, so each part is checked for itself. -/
theorem nodup_map_iff_of_parts
    {β κ : Type} [DecidableEq κ] {f : α → β} {key : α → κ} {xs : List α}
    (hkey : ∀ x y, f x = f y → key x = key y) :
    (xs.map f).Nodup ↔ ∀ k, ((xs.filter (key · = k)).map f).Nodup := by
  constructor
  · exact fun h k => h.sublist (List.filter_sublist.map f)
  · intro h
    induction xs with
    | nil => exact List.nodup_nil
    | cons x xs ih =>
        have hrest : ∀ k, ((xs.filter (key · = k)).map f).Nodup := fun k =>
          (h k).sublist (((List.sublist_cons_self x xs).filter _).map f)
        refine List.nodup_cons.mpr ⟨fun hmem => ?_, ih hrest⟩
        obtain ⟨y, hy, heq⟩ := List.mem_map.mp hmem
        have hpart := h (key x)
        rw [List.filter_cons, if_pos (decide_eq_true rfl)] at hpart
        refine (List.nodup_cons.mp hpart).1 (List.mem_map.mpr ⟨y, ?_, heq⟩)
        exact List.mem_filter.mpr ⟨hy, decide_eq_true (hkey y x heq)⟩

/-- Lists that come from elements with different keys are distinct when no two of them meet. -/
theorem nodup_flatMap_iff_of_keys
    {β κ : Type} {f : α → List β} {key : α → κ} {xs : List α}
    (hkeys : (xs.map key).Nodup) (hf : ∀ x ∈ xs, (f x).Nodup) :
    (xs.flatMap f).Nodup ↔ ∀ x ∈ xs, ∀ y ∈ xs, ∀ b ∈ f x, b ∈ f y → key x = key y := by
  constructor
  · intro h x hx y hy b hb hb'
    by_contra hne
    have hdisjoint : xs.Pairwise fun x y => List.Disjoint (f x) (f y) :=
      (List.nodup_flatMap.mp h).2
    have hsymm : Std.Symm fun x y => List.Disjoint (f x) (f y) := ⟨fun _ _ h => h.symm⟩
    exact hdisjoint.forall hx hy (fun heq => hne (heq ▸ rfl)) hb hb'
  · intro h
    refine List.nodup_flatMap.mpr ⟨hf, (hkeys.of_map key).pairwise_of_forall_ne ?_⟩
    intro x hx y hy hne b hb hb'
    exact hne (List.inj_on_of_nodup_map hkeys hx hy (h x hx y hy b hb hb'))

/-- What passes a test among the images of a list comes from the elements that can give it. -/
theorem filter_filterMap_of_imp
    {β : Type} {f : α → Option β} {p : β → Bool} {q : α → Bool} {xs : List α}
    (h : ∀ a ∈ xs, ∀ b, f a = some b → p b = true → q a = true) :
    (xs.filterMap f).filter p = ((xs.filter q).filterMap f).filter p := by
  induction xs with
  | nil => rfl
  | cons a xs ih =>
      obtain ⟨ha, hxs⟩ := List.forall_mem_cons.mp h
      have ih := ih hxs
      rw [List.filterMap_cons, List.filter_cons]
      cases hf : f a with
      | none =>
          split_ifs
          · rw [List.filterMap_cons, hf]
            exact ih
          · exact ih
      | some b =>
          by_cases hp : p b = true
          · rw [if_pos (ha b hf hp), List.filterMap_cons, hf, List.filter_cons_of_pos hp,
              List.filter_cons_of_pos hp, ih]
          · rw [List.filter_cons_of_neg hp, ih]
            split_ifs
            · rw [List.filterMap_cons, hf]
              exact (List.filter_cons_of_neg hp).symm
            · rfl

section Repetitions

variable [BEq α]

theorem eraseDups_sublist : ∀ xs : List α, xs.eraseDups.Sublist xs
  | [] => by simp
  | x :: xs => by
      rw [List.eraseDups_cons]
      exact ((eraseDups_sublist _).trans List.filter_sublist).cons_cons x
termination_by xs => xs.length
decreasing_by exact Nat.lt_succ_of_le (List.length_filter_le _ _)

variable [LawfulBEq α]

/-- A list without its repetitions has none. -/
theorem nodup_eraseDups : ∀ xs : List α, xs.eraseDups.Nodup
  | [] => by simp
  | x :: xs => by
      rw [List.eraseDups_cons, List.nodup_cons, List.mem_eraseDups]
      exact ⟨by simp, nodup_eraseDups _⟩
termination_by xs => xs.length
decreasing_by exact Nat.lt_succ_of_le (List.length_filter_le _ _)

/-- A list without repetitions stays as it is. -/
theorem eraseDups_of_nodup {xs : List α} (h : xs.Nodup) : xs.eraseDups = xs := by
  induction xs with
  | nil => rfl
  | cons x xs ih =>
      obtain ⟨hx, hxs⟩ := List.nodup_cons.mp h
      have hfilter : xs.filter (fun y => !y == x) = xs := by
        rw [List.filter_eq_self]
        intro y hy
        have hne : y ≠ x := fun he => hx (he ▸ hy)
        simpa using hne
      rw [List.eraseDups_cons, hfilter, ih hxs]

/-- An element behind a list is kept when the list does not have it. -/
theorem eraseDups_concat (xs : List α) (x : α) :
    (xs ++ [x]).eraseDups = if x ∈ xs then xs.eraseDups else xs.eraseDups ++ [x] := by
  rw [List.eraseDups_append, List.removeAll]
  by_cases h : x ∈ xs
  · rw [if_pos h, List.filter_cons_of_neg (by simpa using h)]
    simp
  · rw [if_neg h, List.filter_cons_of_pos (by simpa using h), List.eraseDups_cons]
    simp

/-- Without repetitions the elements stand in the order in which they first occur. -/
theorem pairwise_idxOf_eraseDups (xs : List α) :
    xs.eraseDups.Pairwise fun a b => xs.idxOf a < xs.idxOf b := by
  induction xs using List.reverseRecOn with
  | nil => exact List.Pairwise.nil
  | append_singleton xs x ih =>
      have hkept : xs.eraseDups.Pairwise fun a b => (xs ++ [x]).idxOf a < (xs ++ [x]).idxOf b := by
        refine ih.imp_of_mem fun ha hb hlt => ?_
        rwa [List.idxOf_append_of_mem (List.mem_eraseDups.mp ha),
          List.idxOf_append_of_mem (List.mem_eraseDups.mp hb)]
      rw [eraseDups_concat]
      split_ifs with hx
      · exact hkept
      · refine List.pairwise_append.mpr ⟨hkept, List.pairwise_singleton _ _, fun a ha b hb => ?_⟩
        obtain rfl := List.mem_singleton.mp hb
        have ha := List.mem_eraseDups.mp ha
        rw [List.idxOf_append_of_mem ha, List.idxOf_append_of_notMem hx]
        exact Nat.lt_add_right _ (List.idxOf_lt_length_of_mem ha)

/-- A map that keeps the elements apart keeps their repetitions. -/
theorem eraseDups_map {β : Type} [BEq β] [LawfulBEq β] {f : α → β} (hf : Function.Injective f)
    (xs : List α) : (xs.map f).eraseDups = xs.eraseDups.map f := by
  induction xs using List.reverseRecOn with
  | nil => simp
  | append_singleton xs x ih =>
      rw [List.map_append, List.map_singleton, eraseDups_concat, eraseDups_concat, ih]
      by_cases hx : x ∈ xs
      · rw [if_pos hx, if_pos ((List.mem_map_of_injective hf).mpr hx)]
      · rw [if_neg hx, if_neg (mt (List.mem_map_of_injective hf).mp hx), List.map_append,
          List.map_singleton]

end Repetitions

end Reordering
end TableCast
