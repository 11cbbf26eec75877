import TableCast.Proofs.Name.FileNames
import TableCast.Proofs.Text.Trimming

/-!
# The words of a text

The words of a text stand between its blanks.  Which blanks these are, and how many, does not
matter, as long as there is one between two words.

**Grammar.**  `Words` says of a text which words it is made of.

**Results.**
* `words_iff`: these are the words that are read from it.
* `Words.trimmed`: blanks around a text do not matter.
* `Words.map`: a change of the characters that leaves the blanks alone changes the words.
-/

namespace TableCast
namespace Text

open Name

/-- Some characters, none of which is a blank. -/
def IsWord (w : List Char) : Prop :=
  w ≠ [] ∧ ∀ c ∈ w, isBlank c = false

/-- A text of words, with blanks between them and around them. -/
inductive Words : List (List Char) → List Char → Prop
  | nil : Words [] []
  | blank {c : Char} {ws : List (List Char)} {cs : List Char} (hc : isBlank c = true)
      (h : Words ws cs) : Words ws (c :: cs)
  | last {w : List Char} (hw : IsWord w) : Words [w] w
  | word {w : List Char} {c : Char} {ws : List (List Char)} {cs : List Char} (hw : IsWord w)
      (hc : isBlank c = true) (h : Words ws cs) : Words (w :: ws) (w ++ c :: cs)

section Reading

variable {c : Char} {cs gap w : List Char} {ws : List (List Char)}

theorem blankWords_of_isWord (h : IsWord w) : blankWords w = [w] :=
  runs_of_all h.1 fun c hc => by rw [h.2 c hc]; rfl

/-- A blank separates the words in front of it from those behind it. -/
theorem blankWords_append_cons (hc : isBlank c = true) (xs ys : List Char) :
    blankWords (xs ++ c :: ys) = blankWords xs ++ blankWords ys :=
  runs_append_of_gap (by rw [hc]; rfl) ys xs

theorem blankWords_cons (hc : isBlank c = true) (cs : List Char) :
    blankWords (c :: cs) = blankWords cs :=
  blankWords_append_cons hc [] cs

/-- A word with one more character in front of it, or a new word. -/
theorem words_cons (hc : isBlank c = false) (h : Words ws cs) : ∃ ws, Words ws (c :: cs) := by
  have hmore : ∀ {w}, IsWord w → IsWord (c :: w) := fun hw =>
    ⟨List.cons_ne_nil _ _, List.forall_mem_cons.mpr ⟨hc, hw.2⟩⟩
  have hnew : IsWord [c] := ⟨List.cons_ne_nil _ _, List.forall_mem_singleton.mpr hc⟩
  cases h with
  | nil => exact ⟨_, .last hnew⟩
  | blank hblank h => exact ⟨_, .word hnew hblank h⟩
  | last hw => exact ⟨_, .last (hmore hw)⟩
  | word hw hblank h => exact ⟨_, .word (hmore hw) hblank h⟩

theorem exists_words (cs : List Char) : ∃ ws, Words ws cs := by
  induction cs with
  | nil => exact ⟨[], .nil⟩
  | cons c cs ih =>
      obtain ⟨ws, hws⟩ := ih
      cases hc : isBlank c with
      | true => exact ⟨ws, .blank hc hws⟩
      | false => exact words_cons hc hws

theorem Words.blankWords_eq (h : Words ws cs) : blankWords cs = ws := by
  induction h with
  | nil => rfl
  | blank hc _ ih => rw [blankWords_cons hc, ih]
  | last hw => exact blankWords_of_isWord hw
  | word hw hc _ ih => rw [blankWords_append_cons hc, blankWords_of_isWord hw, ih]; rfl

/-- **The words of a text are those that are read from it.** -/
theorem words_iff : Words ws cs ↔ blankWords cs = ws := by
  refine ⟨Words.blankWords_eq, ?_⟩
  rintro rfl
  obtain ⟨ws, hws⟩ := exists_words cs
  rwa [hws.blankWords_eq]

/-- Blanks in front of a text do not matter, -/
theorem blankWords_blanks_append (hgap : ∀ c ∈ gap, isBlank c = true) (cs : List Char) :
    blankWords (gap ++ cs) = blankWords cs := by
  induction gap with
  | nil => rfl
  | cons c gap ih =>
      obtain ⟨hc, hgap⟩ := List.forall_mem_cons.mp hgap
      rw [List.cons_append, blankWords_cons hc, ih hgap]

/-- and neither do blanks behind it. -/
theorem blankWords_append_blanks (hgap : ∀ c ∈ gap, isBlank c = true) (cs : List Char) :
    blankWords (cs ++ gap) = blankWords cs := by
  cases gap with
  | nil => rw [List.append_nil]
  | cons c gap =>
      obtain ⟨hc, hgap⟩ := List.forall_mem_cons.mp hgap
      have hrest : blankWords gap = [] := by
        rw [← List.append_nil gap, blankWords_blanks_append hgap]
        rfl
      rw [blankWords_append_cons hc, hrest, List.append_nil]

theorem blankWords_trimLeftBy (cs : List Char) :
    blankWords (trimLeftBy isBlank cs) = blankWords cs := by
  obtain ⟨gap, hgap, hcs⟩ := exists_trimLeftBy isBlank cs
  conv_rhs => rw [hcs, blankWords_blanks_append hgap]

theorem blankWords_trimRightBy (cs : List Char) :
    blankWords (trimRightBy isBlank cs) = blankWords cs := by
  obtain ⟨gap, hgap, hcs⟩ := exists_trimLeftBy isBlank cs.reverse
  have hback : cs = trimRightBy isBlank cs ++ gap.reverse := by
    rwa [List.reverse_eq_iff, List.reverse_append] at hcs
  conv_rhs => rw [hback, blankWords_append_blanks fun c hc => hgap c (List.mem_reverse.mp hc)]

end Reading

namespace Words

variable {c : Char} {cs : List Char} {ws : List (List Char)}

/-- Every character is a blank, or a part of a word. -/
theorem blank_or_mem (h : Words ws cs) (hc : c ∈ cs) : isBlank c = true ∨ ∃ w ∈ ws, c ∈ w := by
  induction h with
  | nil => exact absurd hc List.not_mem_nil
  | blank hblank _ ih =>
      rcases List.mem_cons.mp hc with rfl | hc
      · exact .inl hblank
      · exact ih hc
  | last hw => exact .inr ⟨_, List.mem_singleton_self _, hc⟩
  | word hw hblank _ ih =>
      rcases List.mem_append.mp hc with hc | hc
      · exact .inr ⟨_, List.mem_cons_self .., hc⟩
      · rcases List.mem_cons.mp hc with rfl | hc
        · exact .inl hblank
        · exact (ih hc).imp_right fun ⟨w, hw, hc⟩ => ⟨w, List.mem_cons_of_mem _ hw, hc⟩

theorem trimmedLeft (h : Words ws cs) : Words ws (trimLeftBy isBlank cs) := by
  rw [words_iff, blankWords_trimLeftBy, h.blankWords_eq]

theorem trimmedRight (h : Words ws cs) : Words ws (trimRightBy isBlank cs) := by
  rw [words_iff, blankWords_trimRightBy, h.blankWords_eq]

theorem trimmed (h : Words ws cs) : Words ws (trimBlanks cs) :=
  h.trimmedLeft.trimmedRight

/-- A text without words is made of blanks. -/
theorem isBlank_of_nil (h : Words [] cs) : ∀ c ∈ cs, isBlank c = true :=
  fun _ hc => (h.blank_or_mem hc).resolve_right fun ⟨_, hw, _⟩ => List.not_mem_nil hw

theorem trimLeftBy_of_isWord {w : List Char} (hw : IsWord w) (cs : List Char) :
    trimLeftBy isBlank (w ++ cs) = w ++ cs := by
  obtain ⟨c, w, rfl⟩ := List.exists_cons_of_ne_nil hw.1
  exact List.dropWhile_cons_of_neg (Bool.eq_false_iff.mp (hw.2 c (List.mem_cons_self ..)))

/-- A lone word with the blanks behind it. -/
theorem exists_trimLeftBy_singleton {w : List Char} (h : Words [w] cs) :
    ∃ gap, (∀ c ∈ gap, isBlank c = true) ∧ trimLeftBy isBlank cs = w ++ gap := by
  generalize hws : [w] = ws at h
  induction h with
  | nil => exact absurd hws (List.cons_ne_nil _ _)
  | blank hc _ ih =>
      rw [trimLeftBy, List.dropWhile_cons_of_pos hc]
      exact ih hws
  | last hw =>
      obtain rfl := List.head_eq_of_cons_eq hws
      have htrimmed := trimLeftBy_of_isWord hw []
      exact ⟨[], fun c hc => absurd hc List.not_mem_nil, by rwa [List.append_nil] at htrimmed ⊢⟩
  | word hw hc h =>
      obtain ⟨rfl, rfl⟩ := List.cons_eq_cons.mp hws
      exact ⟨_, List.forall_mem_cons.mpr ⟨hc, h.isBlank_of_nil⟩, trimLeftBy_of_isWord hw _⟩

/-- Characters that stay blanks, or stay none. -/
theorem map {f : Char → Char} (hf : ∀ c, isBlank (f c) = isBlank c) (h : Words ws cs) :
    Words (ws.map (List.map f)) (cs.map f) := by
  have hword : ∀ {w}, IsWord w → IsWord (w.map f) := by
    rintro w ⟨hne, hw⟩
    refine ⟨mt List.map_eq_nil_iff.mp hne, ?_⟩
    rintro _ hmem
    obtain ⟨c, hc, rfl⟩ := List.mem_map.mp hmem
    rw [hf, hw c hc]
  induction h with
  | nil => exact .nil
  | blank hblank _ ih => exact .blank (by rw [hf, hblank]) ih
  | last hw => exact .last (hword hw)
  | word hw hblank _ ih =>
      rw [List.map_append]
      exact .word (hword hw) (by rw [hf, hblank]) ih

end Words

end Text
end TableCast
