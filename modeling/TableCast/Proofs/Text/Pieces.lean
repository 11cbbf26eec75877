import TableCast.Text.Pieces
import Mathlib

/-!
# The characters of pieces

What is known of the characters of a text once it is put together from others, taken apart at a
character, or has a character replaced.

Occurrences of a pattern may overlap, and what is put in the place of one may be a part of the next.
Occurrences of a single character do neither: every character of the text has an image of its own.

**Results.**
* `mem_joinWith_iff`: the characters of joined texts.
* `splitOnChar_eq_splitOnP`, `mem_of_mem_splitOnP`, `exists_mem_splitOnChar`: a text taken apart is
  split at a class of characters, and its parts have its other characters.
* `splitOnChar_append`: the parts of two texts with a separator in between.
* `replaceAll_singleton`, `toList_replaced`: a replaced character, as the images of all characters.
-/

namespace TableCast
namespace Text

section Joins

variable {c : Char}

/-- A character of joined texts that is not one of the separator is one of a text. -/
theorem mem_joinWith_iff {sep : String} {parts : List String} (hsep : c ∉ sep.toList) :
    c ∈ (joinWith sep parts).toList ↔ ∃ part ∈ parts, c ∈ part.toList := by
  cases parts with
  | nil => simp [joinWith]
  | cons first rest =>
      rw [joinWith]
      induction rest generalizing first with
      | nil => simp
      | cons part rest ih =>
          rw [List.foldl_cons, ih]
          simp [String.toList_append, hsep, or_assoc]

end Joins

section Splits

variable {sep c : Char} {piece cs : List Char}

/-- The parts of a list hold its own members, and nothing that it is split at. -/
theorem mem_of_mem_splitOnP {p : Char → Bool} (h : piece ∈ cs.splitOnP p) :
    ∀ c ∈ piece, c ∈ cs ∧ p c = false := by
  induction cs generalizing piece with
  | nil =>
      rw [List.splitOnP_nil, List.mem_singleton] at h
      rw [h]
      exact fun c hc => absurd hc List.not_mem_nil
  | cons d cs ih =>
      have hlater : ∀ {piece : List Char}, piece ∈ cs.splitOnP p →
          ∀ c ∈ piece, c ∈ d :: cs ∧ p c = false :=
        fun hpiece c hc => (ih hpiece c hc).imp_left (List.mem_cons_of_mem d)
      rw [List.splitOnP_cons_eq_if_modifyHead] at h
      split_ifs at h with hd
      · rcases List.mem_cons.mp h with rfl | h
        · exact fun c hc => absurd hc List.not_mem_nil
        · exact hlater h
      · obtain ⟨first, rest, hpieces⟩ :=
          List.exists_cons_of_ne_nil (List.splitOnP_ne_nil p cs)
        rw [hpieces] at hlater h
        rcases List.mem_cons.mp h with rfl | h
        · exact List.forall_mem_cons.mpr ⟨⟨List.mem_cons_self .., Bool.eq_false_iff.mpr hd⟩,
            hlater (List.mem_cons_self ..)⟩
        · exact hlater (List.mem_cons_of_mem _ h)

theorem splitOnChar_eq_splitOnP (sep : Char) (cs : List Char) :
    splitOnChar sep cs = cs.splitOnP (· == sep) := by
  induction cs with
  | nil => rfl
  | cons c cs ih =>
      rw [splitOnChar, ih, List.splitOnP_cons_eq_if_modifyHead]
      split_ifs
      · rfl
      · obtain ⟨piece, pieces, hpieces⟩ :=
          List.exists_cons_of_ne_nil (List.splitOnP_ne_nil (· == sep) cs)
        rw [hpieces]
        rfl

theorem splitOnChar_ne_nil (sep : Char) (cs : List Char) : splitOnChar sep cs ≠ [] := by
  rw [splitOnChar_eq_splitOnP]
  exact List.splitOnP_ne_nil _ _

/-- A separator separates the parts in front of it from those behind it. -/
theorem splitOnChar_append (sep : Char) (xs ys : List Char) :
    splitOnChar sep (xs ++ sep :: ys) = splitOnChar sep xs ++ splitOnChar sep ys := by
  simp only [splitOnChar_eq_splitOnP]
  exact List.splitOnP_append_cons xs ys (beq_iff_eq.mpr rfl)

theorem splitOnChar_of_not_mem (h : sep ∉ cs) : splitOnChar sep cs = [cs] := by
  rw [splitOnChar_eq_splitOnP]
  refine List.splitOnP_eq_singleton fun c hc => ?_
  rw [beq_eq_false_iff_ne]
  rintro rfl
  exact h hc

/-- Every other character of a text stays in a part. -/
theorem exists_mem_splitOnChar (hc : c ∈ cs) (hne : c ≠ sep) :
    ∃ piece ∈ splitOnChar sep cs, c ∈ piece := by
  rw [splitOnChar_eq_splitOnP]
  induction cs with
  | nil => exact absurd hc List.not_mem_nil
  | cons d cs ih =>
      rw [List.splitOnP_cons_eq_if_modifyHead]
      split_ifs with hd
      · have hcs : c ∈ cs := (List.mem_cons.mp hc).resolve_left fun h =>
          hne (h.trans (beq_iff_eq.mp hd))
        obtain ⟨piece, hpiece, hmem⟩ := ih hcs
        exact ⟨piece, List.mem_cons_of_mem _ hpiece, hmem⟩
      · obtain ⟨first, rest, hpieces⟩ :=
          List.exists_cons_of_ne_nil (List.splitOnP_ne_nil (· == sep) cs)
        rw [hpieces] at ih ⊢
        rcases List.mem_cons.mp hc with rfl | hc
        · exact ⟨c :: first, List.mem_cons_self .., List.mem_cons_self ..⟩
        · obtain ⟨piece, hpiece, hmem⟩ := ih hc
          rcases List.mem_cons.mp hpiece with rfl | hpiece
          · exact ⟨d :: piece, List.mem_cons_self .., List.mem_cons_of_mem _ hmem⟩
          · exact ⟨piece, List.mem_cons_of_mem _ hpiece, hmem⟩

theorem not_mem_of_mem_splitOnChar (h : piece ∈ splitOnChar sep cs) : sep ∉ piece := by
  rw [splitOnChar_eq_splitOnP] at h
  intro hsep
  exact absurd (beq_self_eq_true sep) (Bool.eq_false_iff.mp (mem_of_mem_splitOnP h sep hsep).2)

end Splits

section Replacements

variable {c d : Char}

/-- What a character becomes when `d` is replaced. -/
def imageOf (d : Char) (image : List Char) (c : Char) : List Char :=
  if c = d then image else [c]

theorem imageOf_self (d : Char) (image : List Char) : imageOf d image d = image :=
  if_pos rfl

theorem imageOf_of_ne (h : c ≠ d) (image : List Char) : imageOf d image c = [c] :=
  if_neg h

theorem replaceAll_singleton (d : Char) (image cs : List Char) :
    replaceAll [d] image cs = cs.flatMap (imageOf d image) := by
  induction cs with
  | nil => rfl
  | cons c cs ih =>
      rw [List.flatMap_cons, ← ih, replaceAll, replaceFrom]
      by_cases hc : c = d
      · subst hc
        rw [imageOf_self]
        simp [replaceAll, List.isPrefixOf]
      · rw [imageOf_of_ne hc]
        simp [replaceAll, List.isPrefixOf, Ne.symm hc]

theorem toList_replaced {s pattern image : String} (hpattern : pattern.toList = [d]) :
    (replaced s pattern image).toList = s.toList.flatMap (imageOf d image.toList) := by
  rw [replaced, String.toList_ofList, hpattern, replaceAll_singleton]

end Replacements

end Text
end TableCast
