import TableCast.Text.Pieces
import Mathlib

/-!
# Trimmed texts

A text without the characters of a class at its ends is a part of the text, and what was taken away
is made of such characters.

**Results.**
* `trimBy_wrapped`: characters of the class at the ends do not matter.
* `exists_trimBy`: a text is its trimmed part with characters of the class around it.
* `trimBy_idem`, `trimBy_of_ends`: the texts that are trimmed already.
* `trimBy_append_cons`: a text with a character of another class inside it is trimmed on either side
  of it.
* `trimLeftBy_eq_cons_iff`: what is left of a text that is trimmed on the left.
-/

namespace TableCast
namespace Text

section Trimming

variable {p : Char → Bool} {cs ds before after : List Char} {c : Char}

theorem trimLeftBy_append (h : ∀ c ∈ before, p c = true) :
    trimLeftBy p (before ++ cs) = trimLeftBy p cs :=
  List.dropWhile_append_of_pos h

theorem trimRightBy_append (h : ∀ c ∈ after, p c = true) :
    trimRightBy p (cs ++ after) = trimRightBy p cs := by
  rw [trimRightBy, trimRightBy, List.reverse_append,
    List.dropWhile_append_of_pos fun c hc => h c (List.mem_reverse.mp hc)]

/-- What stands in front of a character that is kept is trimmed on its own. -/
theorem trimLeftBy_append_cons (hc : p c = false) :
    trimLeftBy p (cs ++ c :: ds) = trimLeftBy p cs ++ c :: ds := by
  induction cs with
  | nil => exact List.dropWhile_cons_of_neg (Bool.eq_false_iff.mp hc)
  | cons d cs ih =>
      cases hd : p d with
      | true =>
          rw [List.cons_append, trimLeftBy, trimLeftBy, List.dropWhile_cons_of_pos hd,
            List.dropWhile_cons_of_pos hd]
          exact ih
      | false =>
          have hneg := Bool.eq_false_iff.mp hd
          rw [List.cons_append, trimLeftBy, trimLeftBy, List.dropWhile_cons_of_neg hneg,
            List.dropWhile_cons_of_neg hneg, List.cons_append]

/-- And so is what stands behind it. -/
theorem trimRightBy_append_cons (hc : p c = false) :
    trimRightBy p (cs ++ c :: ds) = cs ++ c :: trimRightBy p ds := by
  have h := @trimLeftBy_append_cons p ds.reverse cs.reverse c hc
  rw [trimRightBy, List.reverse_append, List.reverse_cons, List.append_assoc, List.singleton_append]
  rw [trimLeftBy] at h
  rw [h, List.reverse_append, List.reverse_cons, List.reverse_reverse, List.append_assoc]
  rfl

theorem trimBy_append_cons (hc : p c = false) :
    trimBy p (cs ++ c :: ds) = trimLeftBy p cs ++ c :: trimRightBy p ds := by
  rw [trimBy, trimLeftBy_append_cons hc, trimRightBy_append_cons hc]

theorem exists_trimLeftBy (p : Char → Bool) (cs : List Char) :
    ∃ gap, (∀ c ∈ gap, p c = true) ∧ cs = gap ++ trimLeftBy p cs :=
  ⟨cs.takeWhile p, fun _ hc => List.mem_takeWhile_imp hc, List.takeWhile_append_dropWhile.symm⟩

/-- A text that starts with a character of another class when it is trimmed. -/
theorem trimLeftBy_eq_cons_iff (hc : p c = false) :
    trimLeftBy p cs = c :: ds ↔ ∃ gap, (∀ d ∈ gap, p d = true) ∧ cs = gap ++ c :: ds := by
  constructor
  · intro h
    rw [← h]
    exact exists_trimLeftBy p cs
  · rintro ⟨gap, hgap, rfl⟩
    rw [trimLeftBy_append hgap, trimLeftBy, List.dropWhile_cons_of_neg (Bool.eq_false_iff.mp hc)]

theorem trimBy_eq_nil_iff : trimBy p cs = [] ↔ ∀ c ∈ cs, p c = true := by
  constructor
  · intro h c hc
    by_contra hneg
    obtain ⟨before, after, rfl⟩ := List.append_of_mem hc
    rw [trimBy_append_cons (Bool.not_eq_true _ ▸ hneg)] at h
    exact List.append_ne_nil_of_right_ne_nil _ (List.cons_ne_nil _ _) h
  · intro h
    rw [trimBy, trimLeftBy, List.dropWhile_eq_nil_iff.mpr h]
    rfl

/-- The characters of the class around a text do not matter. -/
theorem trimBy_wrapped (hbefore : ∀ c ∈ before, p c = true) (hafter : ∀ c ∈ after, p c = true) :
    trimBy p (before ++ cs ++ after) = trimBy p cs := by
  by_cases hcs : ∀ c ∈ cs, p c = true
  · rw [trimBy_eq_nil_iff.mpr hcs, trimBy_eq_nil_iff]
    exact List.forall_mem_append.mpr ⟨List.forall_mem_append.mpr ⟨hbefore, hcs⟩, hafter⟩
  · obtain ⟨c, hc, hneg⟩ := not_forall₂.mp hcs
    obtain ⟨front, back, rfl⟩ := List.append_of_mem hc
    have hkept : p c = false := Bool.not_eq_true _ ▸ hneg
    rw [trimBy_append_cons hkept,
      show before ++ (front ++ c :: back) ++ after = (before ++ front) ++ c :: (back ++ after) by
        simp, trimBy_append_cons hkept, trimLeftBy_append hbefore, trimRightBy_append hafter]

/-- A text is its trimmed part with characters of the class around it. -/
theorem exists_trimBy (p : Char → Bool) (cs : List Char) :
    ∃ before after, (∀ c ∈ before, p c = true) ∧ (∀ c ∈ after, p c = true) ∧
      cs = before ++ trimBy p cs ++ after := by
  refine ⟨cs.takeWhile p, ((trimLeftBy p cs).reverse.takeWhile p).reverse, ?_, ?_, ?_⟩
  · exact fun c hc => List.mem_takeWhile_imp hc
  · exact fun c hc => List.mem_takeWhile_imp (List.mem_reverse.mp hc)
  · rw [List.append_assoc, trimBy, trimRightBy, ← List.reverse_append,
      List.takeWhile_append_dropWhile, List.reverse_reverse, trimLeftBy,
      List.takeWhile_append_dropWhile]

theorem trimBy_idem (p : Char → Bool) (cs : List Char) : trimBy p (trimBy p cs) = trimBy p cs := by
  obtain ⟨before, after, hbefore, hafter, hcs⟩ := exists_trimBy p cs
  have h := @trimBy_wrapped p (trimBy p cs) before after hbefore hafter
  rw [← hcs] at h
  exact h.symm

theorem trimBy_trimLeftBy (p : Char → Bool) (cs : List Char) :
    trimBy p (trimLeftBy p cs) = trimBy p cs := by
  rw [trimBy, trimBy, trimLeftBy, trimLeftBy, List.dropWhile_idempotent]

theorem length_trimBy_le (p : Char → Bool) (cs : List Char) :
    (trimBy p cs).length ≤ cs.length := by
  obtain ⟨before, after, -, -, hcs⟩ := exists_trimBy p cs
  have hlength := congrArg List.length hcs
  rw [List.length_append, List.length_append] at hlength
  omega

/-- A trimmed text does not end with a character of the class. -/
theorem getLast?_trimBy (h : (trimBy p cs).getLast? = some c) : p c = false := by
  rw [trimBy, trimRightBy, List.getLast?_reverse] at h
  have hhead := List.head?_dropWhile_not p (trimLeftBy p cs).reverse
  rw [h] at hhead
  exact hhead

/-- A text is trimmed when it has no character of the class at either end. -/
theorem trimBy_of_ends (hhead : ∀ c, cs.head? = some c → p c = false)
    (hlast : ∀ c, cs.getLast? = some c → p c = false) : trimBy p cs = cs := by
  have hleft : trimLeftBy p cs = cs := by
    cases cs with
    | nil => rfl
    | cons c cs =>
        exact List.dropWhile_cons_of_neg (by rw [hhead c rfl]; exact Bool.false_ne_true)
  rw [trimBy, hleft, trimRightBy]
  cases hreverse : cs.reverse with
  | nil => exact (List.reverse_eq_nil_iff.mp hreverse).symm
  | cons c rest =>
      have hc : p c = false := hlast c (by rw [← List.head?_reverse, hreverse]; rfl)
      rw [List.dropWhile_cons_of_neg (Bool.eq_false_iff.mp hc), ← hreverse,
        List.reverse_reverse]

end Trimming

end Text
end TableCast
