import Mathlib
import TableCast.Proofs.Name.FileNames

/-!
# Words by one scan

The words of a name are made by putting underscores into the name, in several passes, and by
cutting it at all characters that are no letters or numerals.  The passes read characters that
an earlier match of the same pass has used up.  Here the same words come out of one scan of the
original characters, in which every cut depends on three neighbours only.

**Passes.**  A match of the first pass ends behind a small letter.  A capital that stands there is
cut off by the last pass, whatever the first one does with it, so nothing is missed
(`wordsOf_eq_scanned`).  Underscores that are merged in between leave the words as they are
(`runs_mergeUnderscores`).

**Results.**
* `wordsOf_eq_scanned`: the passes and the scan give the same words.
* `scannedWords_append`: a text whose parts are cut off from each other.
* `splitting_scannedWords`: where a word ends.
* `scannedWords_joinUnderscore`: the words of words that were joined.
* `words_by_one_scan`: all of this for the words of a name.
-/

namespace TableCast
namespace Name

open Text

section Scan

/-- Whether a word ends between two neighbours `c` and `d`, in front of some other characters. -/
def cutsBetween (c d : Char) (after : List Char) : Bool :=
  isAsciiUpper d && (isAsciiLower c || isAsciiDigit c || after.head?.any isAsciiLower)

/-- Whether the word of a character goes on behind it. -/
def goesOn (c : Char) : List Char → Bool
  | [] => false
  | d :: after => isAlphanumeric d && !cutsBetween c d after

/-- A character in front of words: dropped, put to the first word, or a word of its own. -/
def withCharacter (c : Char) (joins : Bool) (ws : List (List Char)) : List (List Char) :=
  if isAlphanumeric c then
    match joins, ws with
    | true, w :: ws => (c :: w) :: ws
    | _, ws => [c] :: ws
  else ws

/-- The words of a text by one scan. -/
def scannedWords : List Char → List (List Char)
  | [] => []
  | c :: cs => withCharacter c (goesOn c cs) (scannedWords cs)

variable {c d e : Char} {cs xs ys : List Char} {w : List Char} {ws : List (List Char)}

theorem scannedWords_cons (c : Char) (cs : List Char) :
    scannedWords (c :: cs) = withCharacter c (goesOn c cs) (scannedWords cs) := rfl

theorem withCharacter_of_neg (h : isAlphanumeric c = false) (joins : Bool) :
    withCharacter c joins ws = ws := by
  simp [withCharacter, h]

theorem withCharacter_false (h : isAlphanumeric c = true) :
    withCharacter c false ws = [c] :: ws := by
  simp [withCharacter, h]

theorem withCharacter_cons (h : isAlphanumeric c = true) :
    withCharacter c true (w :: ws) = (c :: w) :: ws := by
  simp [withCharacter, h]

/-- The word of a character that is kept starts with it. -/
theorem scannedWords_cons_of_pos (h : isAlphanumeric c = true) (cs : List Char) :
    ∃ w ws, scannedWords (c :: cs) = (c :: w) :: ws := by
  rw [scannedWords_cons]
  cases goesOn c cs with
  | false => exact ⟨[], _, withCharacter_false h⟩
  | true =>
      cases hws : scannedWords cs with
      | nil => exact ⟨[], [], by simp [withCharacter, h]⟩
      | cons w ws => exact ⟨w, ws, withCharacter_cons h⟩

end Scan

section Passes

variable {c d e : Char} {cs rest xs : List Char}

theorem not_alphanumeric_underscore : isAlphanumeric '_' = false := by decide

/-- One character in front of a text that went through the last pass. -/
theorem runs_breakBeforeCapital_cons (c d : Char) (cs : List Char) :
    runs isAlphanumeric (breakBeforeCapital (c :: d :: cs)) =
      withCharacter c
        (isAlphanumeric d && !((isAsciiLower c || isAsciiDigit c) && isAsciiUpper d))
        (runs isAlphanumeric (breakBeforeCapital (d :: cs))) := by
  obtain ⟨rest, hrest⟩ : ∃ rest, breakBeforeCapital (d :: cs) = d :: rest := by
    cases cs with
    | nil => exact ⟨[], rfl⟩
    | cons e cs =>
        rw [breakBeforeCapital]
        split_ifs
        · exact ⟨_, rfl⟩
        · exact ⟨_, rfl⟩
  rw [breakBeforeCapital, hrest]
  by_cases hcut : ((isAsciiLower c || isAsciiDigit c) && isAsciiUpper d) = true
  · rw [if_pos hcut, hcut, Bool.not_true, Bool.and_false]
    have hgap := runs_append_of_gap not_alphanumeric_underscore (d :: rest) [c]
    rw [List.singleton_append] at hgap
    rw [hgap, runs]
    by_cases hc : isAlphanumeric c = true
    · rw [if_pos hc, withCharacter_false hc, List.singleton_append]
    · rw [if_neg hc, withCharacter_of_neg (Bool.eq_false_iff.mpr hc), List.nil_append]
  · rw [if_neg hcut, Bool.eq_false_iff.mpr hcut, Bool.not_false, Bool.and_true, runs]
    by_cases hc : isAlphanumeric c = true
    · rw [if_pos hc]
      by_cases hd : isAlphanumeric d = true
      · obtain ⟨w, ws, hruns⟩ := runs_cons_of_pos hd rest
        rw [if_pos hd, hruns, hd, withCharacter_cons hc]
      · rw [if_neg hd, Bool.eq_false_iff.mpr hd, withCharacter_false hc]
    · rw [if_neg hc, withCharacter_of_neg (Bool.eq_false_iff.mpr hc)]

/-- An underscore separates words in the last pass too. -/
theorem runs_breakBeforeCapital_underscore (c d : Char) (cs : List Char) :
    runs isAlphanumeric (breakBeforeCapital (c :: '_' :: d :: cs)) =
      withCharacter c false (runs isAlphanumeric (breakBeforeCapital (d :: cs))) := by
  rw [runs_breakBeforeCapital_cons, runs_breakBeforeCapital_cons '_' d,
    withCharacter_of_neg not_alphanumeric_underscore, not_alphanumeric_underscore, Bool.false_and]

theorem breakCapitalized_cons (inWord : Bool) (d : Char) (cs : List Char) :
    ∃ rest, breakCapitalized inWord (d :: cs) = d :: rest := by
  rw [breakCapitalized.eq_def]
  dsimp only
  split_ifs
  · exact ⟨_, rfl⟩
  · split
    · split_ifs
      · exact ⟨_, rfl⟩
      · exact ⟨_, rfl⟩
    · exact ⟨_, rfl⟩

/-- A capital is no small letter, so behind it the scan cuts as the last pass does. -/
theorem goesOn_of_not_capitalized (h : (isAsciiUpper d && rest.head?.any isAsciiLower) = false) :
    goesOn c (d :: rest) =
      (isAlphanumeric d && !((isAsciiLower c || isAsciiDigit c) && isAsciiUpper d)) := by
  rw [goesOn, cutsBetween]
  cases hd : isAsciiUpper d with
  | false => simp
  | true =>
      rw [hd, Bool.true_and] at h
      rw [h]
      simp

theorem runs_singleton (c : Char) : runs isAlphanumeric [c] = scannedWords [c] := by
  by_cases hc : isAlphanumeric c = true <;> simp [runs, scannedWords, goesOn, withCharacter, hc]

/-- The passes that put underscores into a text cut it where the scan does. -/
theorem runs_passes (inWord : Bool) (cs : List Char) :
    runs isAlphanumeric (breakBeforeCapital (breakCapitalized inWord cs)) = scannedWords cs := by
  induction inWord, cs using breakCapitalized.induct with
  | case1 inWord =>
      rw [breakCapitalized.eq_1]
      rfl
  | case2 inWord c cs h ih =>
      -- Behind a small letter every capital is cut off, by the scan and by the last pass.
      have hlower := (Bool.and_eq_true_iff.mp h).2
      rw [breakCapitalized_copy h]
      cases cs with
      | nil =>
          rw [breakCapitalized.eq_1]
          exact runs_singleton c
      | cons d cs =>
          obtain ⟨rest, hrest⟩ := breakCapitalized_cons true d cs
          rw [scannedWords_cons, ← ih, hrest, runs_breakBeforeCapital_cons]
          simp [goesOn, cutsBetween, hlower]
  | case3 inWord c h d e rest hcut ih =>
      obtain ⟨hcd, he⟩ := Bool.and_eq_true_iff.mp hcut
      have hd := (Bool.and_eq_true_iff.mp hcd).2
      have hupper := not_upper_of_lower he
      obtain ⟨text, htext⟩ := breakCapitalized_cons true e rest
      have hword : goesOn d (e :: rest) =
          (isAlphanumeric e && !((isAsciiLower d || isAsciiDigit d) && isAsciiUpper e)) :=
        goesOn_of_not_capitalized (by rw [hupper, Bool.false_and])
      have hends : goesOn c (d :: e :: rest) = false := by simp [goesOn, cutsBetween, hd, he]
      rw [breakCapitalized_cut (Bool.eq_false_iff.mpr h) hcut, runs_breakBeforeCapital_underscore,
        htext, runs_breakBeforeCapital_cons, ← hword, ← htext, ih, scannedWords_cons c, hends,
        scannedWords_cons d]
  | case4 inWord c h d e rest hcut ih =>
      have hpass := Bool.eq_false_iff.mpr hcut
      obtain ⟨text, htext⟩ := breakCapitalized_cons false d (e :: rest)
      rw [breakCapitalized_pass (Bool.eq_false_iff.mpr h) hpass, htext,
        runs_breakBeforeCapital_cons, ← htext, ih, scannedWords_cons c]
      -- Only at the end of a line a capitalised word is not cut off, and no word ends there.
      by_cases hline : c = '\n'
      · have hc : isAlphanumeric c = false := by rw [hline]; decide
        rw [withCharacter_of_neg hc, withCharacter_of_neg hc]
      · rw [goesOn_of_not_capitalized]
        simpa [hline] using hpass
  | case5 inWord c cs h hshort =>
      rcases cs with _ | ⟨d, _ | ⟨e, rest⟩⟩
      · rw [breakCapitalized_singleton]
        exact runs_singleton c
      · rw [breakCapitalized_pair, runs_breakBeforeCapital_cons, scannedWords_cons c,
          goesOn_of_not_capitalized (by simp), ← runs_singleton d]
        rfl
      · exact absurd rfl (hshort d e rest)

theorem wordsOf_eq_scanned (cs : List Char) : wordsOf cs = scannedWords cs :=
  runs_passes false cs

/-- Two underscores in front of a capital made one. -/
def mergeUnderscores : List Char → List Char
  | '_' :: '_' :: d :: cs =>
    if isAsciiUpper d then '_' :: d :: mergeUnderscores cs
    else '_' :: mergeUnderscores ('_' :: d :: cs)
  | c :: cs => c :: mergeUnderscores cs
  | [] => []

theorem mergeUnderscores_cons (c : Char) (cs : List Char) :
    ∃ rest, mergeUnderscores (c :: cs) = c :: rest := by
  rw [mergeUnderscores.eq_def]
  split
  · rename_i d rest heq
    obtain ⟨rfl, -⟩ := List.cons.inj heq
    split_ifs
    · exact ⟨_, rfl⟩
    · exact ⟨_, rfl⟩
  · rename_i heq
    obtain ⟨rfl, rfl⟩ := List.cons.inj heq
    exact ⟨_, rfl⟩
  · rename_i heq
    cases heq

/-- Merging that leaves the words of a text leaves them behind one more character too. -/
theorem runs_cons_mergeUnderscores
    (h : runs isAlphanumeric (breakBeforeCapital (mergeUnderscores cs)) =
      runs isAlphanumeric (breakBeforeCapital cs)) (c : Char) :
    runs isAlphanumeric (breakBeforeCapital (c :: mergeUnderscores cs)) =
      runs isAlphanumeric (breakBeforeCapital (c :: cs)) := by
  cases cs with
  | nil => rw [mergeUnderscores]
  | cons d rest =>
      obtain ⟨merged, hmerged⟩ := mergeUnderscores_cons d rest
      rw [hmerged] at h ⊢
      rw [runs_breakBeforeCapital_cons, runs_breakBeforeCapital_cons, h]

/-- Merging underscores between the passes leaves the words as they are. -/
theorem runs_mergeUnderscores (cs : List Char) :
    runs isAlphanumeric (breakBeforeCapital (mergeUnderscores cs)) =
      runs isAlphanumeric (breakBeforeCapital cs) := by
  induction cs using mergeUnderscores.induct with
  | case1 d cs hd ih =>
      have hgap : ∀ c cs, runs isAlphanumeric (breakBeforeCapital ('_' :: c :: cs)) =
          runs isAlphanumeric (breakBeforeCapital (c :: cs)) := by
        intro c cs
        rw [runs_breakBeforeCapital_cons, withCharacter_of_neg not_alphanumeric_underscore]
      rw [mergeUnderscores, if_pos hd, hgap, runs_cons_mergeUnderscores ih, hgap, hgap]
  | case2 d cs hd ih =>
      rw [mergeUnderscores, if_neg hd]
      exact runs_cons_mergeUnderscores ih '_'
  | case3 c cs hshort ih =>
      rw [mergeUnderscores]
      · exact runs_cons_mergeUnderscores ih c
      · exact hshort
  | case4 => rw [mergeUnderscores]

end Passes

section Boundaries

variable {c d s : Char} {cs xs ys before after : List Char} {w : List Char}
variable {ws : List (List Char)}

theorem withCharacter_append (c : Char) (joins : Bool) (vs : List (List Char))
    (h : joins = true → ws ≠ []) :
    withCharacter c joins (ws ++ vs) = withCharacter c joins ws ++ vs := by
  by_cases hc : isAlphanumeric c = true
  · cases joins with
    | false => rw [withCharacter_false hc, withCharacter_false hc, List.cons_append]
    | true =>
        obtain ⟨w, ws, rfl⟩ := List.exists_cons_of_ne_nil (h rfl)
        rw [List.cons_append, withCharacter_cons hc, withCharacter_cons hc, List.cons_append]
  · rw [withCharacter_of_neg (Bool.eq_false_iff.mpr hc),
      withCharacter_of_neg (Bool.eq_false_iff.mpr hc)]

/-- A word that goes on does so into the next word. -/
theorem scannedWords_ne_nil_of_goesOn (h : goesOn c cs = true) : scannedWords cs ≠ [] := by
  cases cs with
  | nil => simp [goesOn] at h
  | cons d cs =>
      obtain ⟨w, ws, hws⟩ := scannedWords_cons_of_pos (Bool.and_eq_true_iff.mp h).1 cs
      rw [hws]
      exact List.cons_ne_nil _ _

/-- Two texts of which the first one's last word does not go on.  The second one starts with no
small letter, so the cuts in the first one stay where they are. -/
theorem scannedWords_append (hsmall : ys.head?.any isAsciiLower = false)
    (hends : ∀ c, xs.getLast? = some c → isAlphanumeric c = true → goesOn c ys = false) :
    scannedWords (xs ++ ys) = scannedWords xs ++ scannedWords ys := by
  induction xs with
  | nil => rfl
  | cons x xs ih =>
      cases xs with
      | nil =>
          rw [List.singleton_append, scannedWords_cons, scannedWords_cons]
          by_cases hx : isAlphanumeric x = true
          · rw [hends x rfl hx, withCharacter_false hx]
            simp [goesOn, scannedWords, withCharacter, hx]
          · rw [withCharacter_of_neg (Bool.eq_false_iff.mpr hx),
              withCharacter_of_neg (Bool.eq_false_iff.mpr hx), scannedWords, List.nil_append]
      | cons y xs =>
          have hnext : goesOn x (y :: xs ++ ys) = goesOn x (y :: xs) := by
            cases xs with
            | nil => simp [goesOn, cutsBetween, hsmall]
            | cons z xs => rfl
          rw [List.cons_append, scannedWords_cons, hnext, scannedWords_cons,
            ih fun c hc => hends c (by rwa [List.getLast?_cons_cons]), withCharacter_append]
          exact scannedWords_ne_nil_of_goesOn

theorem flatten_withCharacter (c : Char) (joins : Bool) (ws : List (List Char)) :
    (withCharacter c joins ws).flatten = [c].filter isAlphanumeric ++ ws.flatten := by
  by_cases hc : isAlphanumeric c = true
  · rw [List.filter_cons_of_pos hc]
    cases joins with
    | false => rw [withCharacter_false hc, List.flatten_cons]; rfl
    | true =>
        cases ws with
        | nil => simp [withCharacter, hc]
        | cons w ws => rw [withCharacter_cons hc]; rfl
  · rw [withCharacter_of_neg (Bool.eq_false_iff.mpr hc), List.filter_cons_of_neg hc]
    rfl

/-- The letters and numerals are kept in their order. -/
theorem flatten_scannedWords (cs : List Char) :
    (scannedWords cs).flatten = cs.filter isAlphanumeric := by
  induction cs with
  | nil => rfl
  | cons c cs ih =>
      rw [scannedWords_cons, flatten_withCharacter, ih, ← List.filter_append,
        List.singleton_append]

theorem not_small_of_gap (h : isAlphanumeric s = false) : isAsciiLower s = false := by
  rw [Bool.eq_false_iff] at h ⊢
  exact fun hlower => h (isAlphanumeric_of_letter (by rw [isAsciiLetter, hlower, Bool.or_true]))

theorem scannedWords_append_gap (h : isAlphanumeric s = false) (xs ys : List Char) :
    scannedWords (xs ++ s :: ys) = scannedWords xs ++ scannedWords ys := by
  rw [scannedWords_append (by simp [not_small_of_gap h]) fun c _ _ => by simp [goesOn, h],
    scannedWords_cons, withCharacter_of_neg h]

/-- Whether a word ends where the given characters have been read. -/
def EndsWord (ws : List (List Char)) (read : List Char) : Prop :=
  ∃ front back, ws = front ++ back ∧ front.flatten = read

/-- Neighbours that are not cut off from each other stand in one word. -/
theorem exists_word_of_goesOn (hc : isAlphanumeric c = true) (hd : isAlphanumeric d = true)
    (h : cutsBetween c d after = false) (before : List Char) :
    ∃ front u v back, scannedWords (before ++ c :: d :: after) =
        front ++ (u ++ c :: d :: v) :: back ∧
      front.flatten ++ u = before.filter isAlphanumeric := by
  induction before with
  | nil =>
      obtain ⟨w, ws, hws⟩ := scannedWords_cons_of_pos hd after
      refine ⟨[], [], w, ws, ?_, rfl⟩
      rw [List.nil_append, scannedWords_cons, hws, goesOn, hd, h]
      exact withCharacter_cons hc
  | cons b before ih =>
      obtain ⟨front, u, v, back, hws, hread⟩ := ih
      rw [List.cons_append, scannedWords_cons, hws]
      by_cases hb : isAlphanumeric b = true
      · rw [List.filter_cons_of_pos hb, ← hread]
        cases goesOn b (before ++ c :: d :: after) with
        | false => exact ⟨[b] :: front, u, v, back, withCharacter_false hb, rfl⟩
        | true =>
            cases front with
            | nil => exact ⟨[], b :: u, v, back, withCharacter_cons hb, rfl⟩
            | cons w front => exact ⟨(b :: w) :: front, u, v, back, withCharacter_cons hb, rfl⟩
      · rw [List.filter_cons_of_neg hb, withCharacter_of_neg (Bool.eq_false_iff.mpr hb)]
        exact ⟨front, u, v, back, rfl, hread⟩

/-- No word ends between two characters of one word. -/
theorem not_endsWord_of_word {front back : List (List Char)} {u v : List Char} (hv : ws =
      front ++ (u ++ c :: d :: v) :: back) : ¬EndsWord ws (front.flatten ++ u ++ [c]) := by
  rintro ⟨front', back', hsplit, hread⟩
  rw [hv] at hsplit
  have hlength := congrArg List.length hread
  rcases List.append_eq_append_iff.mp hsplit with ⟨more, rfl, hmore⟩ | ⟨more, rfl, -⟩
  · cases more with
    | nil => simp at hlength
    | cons first more =>
        obtain ⟨rfl, -⟩ := List.cons.inj hmore
        simp at hlength
  · simp at hlength

/-- What one scan makes of a text: words that hold its letters and numerals in order.  A word ends
at every other character, and between two neighbours exactly when these are cut off. -/
structure Splitting (cs : List Char) (ws : List (List Char)) : Prop where
  nonempty : ∀ w ∈ ws, w ≠ []
  kept : ws.flatten = cs.filter isAlphanumeric
  gaps : ∀ before s after, cs = before ++ s :: after → isAlphanumeric s = false →
    EndsWord ws (before.filter isAlphanumeric)
  neighbours : ∀ before c d after, cs = before ++ c :: d :: after →
    isAlphanumeric c = true → isAlphanumeric d = true →
    (EndsWord ws ((before ++ [c]).filter isAlphanumeric) ↔ cutsBetween c d after = true)

theorem splitting_scannedWords (cs : List Char) : Splitting cs (scannedWords cs) where
  nonempty := by
    intro w hw
    rw [← wordsOf_eq_scanned] at hw
    exact ne_nil_of_mem_runs hw
  kept := flatten_scannedWords cs
  gaps := by
    rintro before s after rfl hs
    rw [scannedWords_append_gap hs]
    exact ⟨_, _, rfl, flatten_scannedWords before⟩
  neighbours := by
    rintro before c d after rfl hc hd
    constructor
    · intro hends
      by_contra hcut
      obtain ⟨front, u, v, back, hws, hread⟩ :=
        exists_word_of_goesOn hc hd (Bool.eq_false_iff.mpr hcut) before
      rw [List.filter_append, ← hread, List.filter_cons_of_pos hc] at hends
      exact not_endsWord_of_word hws hends
    · intro hcut
      have hupper := (Bool.and_eq_true_iff.mp hcut).1
      have hsplit : before ++ c :: d :: after = (before ++ [c]) ++ d :: after := by simp
      rw [hsplit, scannedWords_append]
      · exact ⟨_, _, rfl, flatten_scannedWords _⟩
      · simp [not_lower_of_upper hupper]
      · intro last hlast _
        obtain rfl : c = last := by simpa using hlast
        rw [goesOn, hcut, Bool.not_true, Bool.and_false]

end Boundaries

section Joined

variable {c : Char} {cs w : List Char} {ws : List (List Char)}

/-- The first word of a text that starts with it. -/
theorem first_word_isPrefix (hc : isAlphanumeric c = true)
    (h : scannedWords (c :: cs) = (c :: w) :: ws) : w <+: cs := by
  induction cs generalizing c w ws with
  | nil =>
      rw [scannedWords_cons, goesOn, withCharacter_false hc] at h
      obtain ⟨hw, -⟩ := List.cons.inj h
      rw [← (List.cons.inj hw).2]
  | cons d cs ih =>
      rw [scannedWords_cons] at h
      cases hgoes : goesOn c (d :: cs) with
      | false =>
          rw [hgoes, withCharacter_false hc] at h
          obtain ⟨hw, -⟩ := List.cons.inj h
          rw [← (List.cons.inj hw).2]
          exact List.nil_prefix
      | true =>
          have hd := (Bool.and_eq_true_iff.mp hgoes).1
          obtain ⟨v, vs, hnext⟩ := scannedWords_cons_of_pos hd cs
          rw [hgoes, hnext, withCharacter_cons hc] at h
          obtain ⟨hw, -⟩ := List.cons.inj h
          rw [← (List.cons.inj hw).2]
          exact (List.prefix_cons_inj d).mpr (ih hd hnext)

/-- What goes on in a text goes on in a start of the text. -/
theorem goesOn_of_isPrefix (h : goesOn c cs = true) (hw : w ≠ []) (hstart : w <+: cs) :
    goesOn c w = true := by
  obtain ⟨d, w, rfl⟩ := List.exists_cons_of_ne_nil hw
  obtain ⟨rest, rfl⟩ := hstart
  cases w with
  | cons e w => exact h
  | nil =>
      simp only [List.cons_append, List.nil_append, goesOn, cutsBetween] at h ⊢
      grind

/-- A word by itself is one word. -/
theorem scannedWords_of_mem (cs : List Char) : ∀ w ∈ scannedWords cs, scannedWords w = [w] := by
  induction cs with
  | nil => exact fun w hw => absurd hw List.not_mem_nil
  | cons c cs ih =>
      intro w hw
      by_cases hc : isAlphanumeric c = true
      · rw [scannedWords_cons] at hw
        cases hgoes : goesOn c cs with
        | false =>
            rw [hgoes, withCharacter_false hc] at hw
            rcases List.mem_cons.mp hw with rfl | hw
            · simp [scannedWords, goesOn, withCharacter, hc]
            · exact ih w hw
        | true =>
            cases cs with
            | nil => simp [goesOn] at hgoes
            | cons d cs =>
                have hd := (Bool.and_eq_true_iff.mp hgoes).1
                obtain ⟨v, vs, hnext⟩ := scannedWords_cons_of_pos hd cs
                rw [hgoes, hnext, withCharacter_cons hc] at hw
                rw [hnext] at ih
                rcases List.mem_cons.mp hw with rfl | hw
                · have hstart : d :: v <+: d :: cs :=
                    (List.prefix_cons_inj d).mpr (first_word_isPrefix hd hnext)
                  rw [scannedWords_cons, goesOn_of_isPrefix hgoes (List.cons_ne_nil d v) hstart,
                    ih _ List.mem_cons_self, withCharacter_cons hc]
                · exact ih w (List.mem_cons_of_mem _ hw)
      · rw [scannedWords_cons, withCharacter_of_neg (Bool.eq_false_iff.mpr hc)] at hw
        exact ih w hw

/-- Words joined by underscores are found again. -/
theorem scannedWords_joinUnderscore :
    ∀ {ws : List (List Char)}, (∀ w ∈ ws, scannedWords w = [w]) →
      scannedWords (joinUnderscore ws) = ws
  | [], _ => rfl
  | [w], h => h w (List.mem_singleton_self w)
  | w :: v :: ws, h => by
      have hrest := scannedWords_joinUnderscore fun u hu => h u (List.mem_cons_of_mem w hu)
      rw [joinUnderscore, scannedWords_append_gap not_alphanumeric_underscore, hrest,
        h w List.mem_cons_self, List.singleton_append]

/-- The words of a name are those of one scan of its characters, which end where `Splitting` says.
Merging underscores on the way changes nothing, and words joined by underscores have themselves
as words. -/
theorem words_by_one_scan (name : String) :
    words name = (scannedWords name.toList).map String.ofList ∧
    Splitting name.toList (scannedWords name.toList) ∧
    words name = (runs isAlphanumeric (breakBeforeCapital
      (mergeUnderscores (breakCapitalized false name.toList)))).map String.ofList ∧
    words (String.ofList (joinUnderscore (wordsOf name.toList))) = words name := by
  have hwords := wordsOf_eq_scanned name.toList
  refine ⟨?_, splitting_scannedWords _, ?_, ?_⟩
  · rw [words, hwords]
  · rw [runs_mergeUnderscores]
    rfl
  · rw [words, words, String.toList_ofList, wordsOf_eq_scanned, hwords,
      scannedWords_joinUnderscore (scannedWords_of_mem name.toList)]

example : words "userID_2faXMLHttp" = ["user", "ID", "2fa", "XML", "Http"] := by decide +kernel

end Joined

end Name
end TableCast
