import TableCast.Text.QuotedList
import Mathlib

/-!
# Doubled quotes

In a literal the quotes of the value are written twice, so the literal ends at the first quote that
no other quote follows.

**Results.**
* `doubleQuotes_quote_inj`, `doubleQuotes_ne`: a text starts with at most one literal, and the
  literal holds no quote that ends it.
* `exists_doubled_or_closesEarly`, `not_closesEarly_doubleQuotes`: the text between two quotes is
  that of one literal, or the literal ends before the last quote, and not both.
* `mem_doubleQuotes`, `length_le_doubleQuotes`: the characters of a literal.
-/

namespace TableCast
namespace Text

variable {v w t u : List Char} {c d : Char}

theorem doubleQuotes_quote (v : List Char) :
    doubleQuotes ('\'' :: v) = '\'' :: '\'' :: doubleQuotes v :=
  rfl

theorem doubleQuotes_of_ne (h : c ≠ '\'') (v : List Char) :
    doubleQuotes (c :: v) = c :: doubleQuotes v := by
  rw [doubleQuotes, if_neg (by rwa [beq_iff_eq])]

theorem toList_quoteLiteral (s : String) :
    (quoteLiteral s).toList = '\'' :: (doubleQuotes s.toList ++ ['\'']) :=
  String.toList_ofList

/-- Two texts that start with the same literal character start with the same character. -/
theorem doubleQuotes_cons_inj (h : doubleQuotes (c :: v) ++ t = doubleQuotes (d :: w) ++ u) :
    c = d ∧ doubleQuotes v ++ t = doubleQuotes w ++ u := by
  by_cases hc : c = '\''
  · obtain rfl := hc
    by_cases hd : d = '\''
    · obtain rfl := hd
      exact ⟨rfl, (List.cons.inj (List.cons.inj h).2).2⟩
    · rw [doubleQuotes_of_ne hd] at h
      exact absurd (List.cons.inj h).1.symm hd
  · rw [doubleQuotes_of_ne hc] at h
    by_cases hd : d = '\''
    · obtain rfl := hd
      exact absurd (List.cons.inj h).1 hc
    · rw [doubleQuotes_of_ne hd] at h
      exact List.cons.inj h

/-- A quote that no other quote follows is not written by a character of a literal. -/
theorem ne_doubleQuotes_cons (ht : t.head? ≠ some '\'') :
    '\'' :: t ≠ doubleQuotes (c :: v) ++ u := by
  intro h
  by_cases hc : c = '\''
  · obtain rfl := hc
    exact ht (by rw [(List.cons.inj h).2]; rfl)
  · rw [doubleQuotes_of_ne hc] at h
    exact hc (List.cons.inj h).1.symm

/-- A text starts with at most one literal: the quote that ends it is the first one that no other
quote follows. -/
theorem doubleQuotes_quote_inj (ht : t.head? ≠ some '\'') (hu : u.head? ≠ some '\'')
    (h : doubleQuotes v ++ '\'' :: t = doubleQuotes w ++ '\'' :: u) : v = w ∧ t = u := by
  induction v generalizing w with
  | nil =>
      cases w with
      | nil => exact ⟨rfl, (List.cons.inj h).2⟩
      | cons d w => exact absurd h (ne_doubleQuotes_cons ht)
  | cons c v ih =>
      cases w with
      | nil => exact absurd h.symm (ne_doubleQuotes_cons hu)
      | cons d w =>
          obtain ⟨rfl, hrest⟩ := doubleQuotes_cons_inj h
          obtain ⟨rfl, rfl⟩ := ih hrest
          exact ⟨rfl, rfl⟩

/-- The characters of a literal hold no quote that ends it. -/
theorem doubleQuotes_ne (ht : t.head? ≠ some '\'') :
    doubleQuotes v ≠ doubleQuotes w ++ '\'' :: t := by
  induction v generalizing w with
  | nil => exact (List.append_ne_nil_of_right_ne_nil _ (List.cons_ne_nil _ _)).symm
  | cons c v ih =>
      intro h
      rw [← List.append_nil (doubleQuotes (c :: v))] at h
      cases w with
      | nil => exact ne_doubleQuotes_cons ht h.symm
      | cons d w =>
          obtain ⟨-, hrest⟩ := doubleQuotes_cons_inj h
          rw [List.append_nil] at hrest
          exact ih hrest

/-- The text between two quotes holds a quote that ends the literal before the last one does. -/
def ClosesEarly (body : List Char) : Prop :=
  ∃ value rest, body = doubleQuotes value ++ '\'' :: rest ∧ rest.head? ≠ some '\''

/-- The text between two quotes is that of one literal, or the literal ends before the last
quote. -/
theorem exists_doubled_or_closesEarly :
    ∀ body : List Char, (∃ value, body = doubleQuotes value) ∨ ClosesEarly body
  | [] => .inl ⟨[], rfl⟩
  | [c] => by
      by_cases hc : c = '\''
      · obtain rfl := hc
        exact .inr ⟨[], [], rfl, nofun⟩
      · exact .inl ⟨[c], (doubleQuotes_of_ne hc []).symm⟩
  | c :: d :: rest => by
      by_cases hc : c = '\''
      · obtain rfl := hc
        by_cases hd : d = '\''
        · obtain rfl := hd
          rcases exists_doubled_or_closesEarly rest with ⟨value, rfl⟩ | ⟨value, tail, rfl, htail⟩
          · exact .inl ⟨'\'' :: value, rfl⟩
          · exact .inr ⟨'\'' :: value, tail, rfl, htail⟩
        · exact .inr ⟨[], d :: rest, rfl, fun h => hd (Option.some.inj h)⟩
      · rcases exists_doubled_or_closesEarly (d :: rest) with
          ⟨value, hvalue⟩ | ⟨value, tail, h, htail⟩
        · exact .inl ⟨c :: value, by rw [doubleQuotes_of_ne hc, hvalue]⟩
        · exact .inr ⟨c :: value, tail, by rw [doubleQuotes_of_ne hc, h, List.cons_append], htail⟩

/-- And not both. -/
theorem not_closesEarly_doubleQuotes (value : List Char) : ¬ ClosesEarly (doubleQuotes value) := by
  rintro ⟨first, rest, h, hrest⟩
  exact doubleQuotes_ne hrest h

/-- Doubling brings no new characters. -/
theorem mem_doubleQuotes : c ∈ doubleQuotes v ↔ c ∈ v := by
  induction v with
  | nil => exact Iff.rfl
  | cons d v ih =>
      by_cases hd : d = '\''
      · obtain rfl := hd
        simp [doubleQuotes_quote, ih]
      · rw [doubleQuotes_of_ne hd, List.mem_cons, List.mem_cons, ih]

theorem length_le_doubleQuotes (v : List Char) : v.length ≤ (doubleQuotes v).length := by
  induction v with
  | nil => exact Nat.le_refl 0
  | cons c v ih =>
      by_cases hc : c = '\''
      · obtain rfl := hc
        rw [doubleQuotes_quote, List.length_cons, List.length_cons, List.length_cons]
        omega
      · rw [doubleQuotes_of_ne hc, List.length_cons, List.length_cons]
        omega

end Text
end TableCast
