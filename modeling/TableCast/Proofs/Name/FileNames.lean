import TableCast.Name.Normalizer
import TableCast.Proofs.Name.Spelling

/-!
# File names

A file is named after a type by the words of the type name.  A capitalised word at the end of a
type name is one more word of it, so the file name of a repository is as good as that of its
entity: one tells the other.

**Results.**
* `runs_append_of_gap`: the words in front of a separator and those behind it.
* `wordsOf_append_capitalized`: the words of a name with a capitalised word behind it.
* `withLeadingLetter_injective`: names that differ keep differing with a leading letter.
* `snake_eq_of_repositoryName`: repositories with one file name have entities with one file name.
-/

namespace TableCast
namespace Name

open Text

section Runs

variable {p : Char → Bool} {c : Char}

theorem runs_cons_of_neg (h : p c = false) (cs : List Char) : runs p (c :: cs) = runs p cs := by
  cases cs with
  | nil => simp [runs, h]
  | cons d cs => simp [runs, h]

theorem runs_cons_of_pos (h : p c = true) (cs : List Char) :
    ∃ w ws, runs p (c :: cs) = (c :: w) :: ws := by
  cases cs with
  | nil => exact ⟨[], [], by simp [runs, h]⟩
  | cons d cs =>
      rw [runs, if_pos h]
      split_ifs
      · cases runs p (d :: cs) with
        | nil => exact ⟨[], [], rfl⟩
        | cons run rest => exact ⟨run, rest, rfl⟩
      · exact ⟨[], runs p (d :: cs), rfl⟩

/-- A character outside words separates the words in front of it from those behind it. -/
theorem runs_append_of_gap (h : p c = false) (ys : List Char) :
    ∀ xs : List Char, runs p (xs ++ c :: ys) = runs p xs ++ runs p ys
  | [] => runs_cons_of_neg h ys
  | [x] => by
      have hrest := runs_cons_of_neg h ys
      simp only [List.singleton_append, runs, h, hrest, Bool.false_eq_true, if_false]
      split_ifs
      · rfl
      · rfl
  | x :: y :: xs => by
      have ih := runs_append_of_gap h ys (y :: xs)
      rw [List.cons_append] at ih
      rw [List.cons_append, List.cons_append, runs, ih, runs]
      split_ifs with hx hy
      · obtain ⟨w, ws, hruns⟩ := runs_cons_of_pos hy xs
        rw [hruns]
        rfl
      · rfl
      · rfl

theorem runs_of_all :
    ∀ {w : List Char}, w ≠ [] → (∀ c ∈ w, p c = true) → runs p w = [w]
  | [], hw, _ => absurd rfl hw
  | [c], _, hall => by rw [runs, if_pos (hall c (List.mem_singleton_self c))]
  | c :: d :: cs, _, hall => by
      have hrest := runs_of_all (List.cons_ne_nil d cs) fun e he =>
        hall e (List.mem_cons_of_mem c he)
      have hc := hall c (List.mem_cons_self ..)
      have hd := hall d (List.mem_cons_of_mem c (List.mem_cons_self ..))
      rw [runs, if_pos hc, if_pos hd, hrest]

end Runs

section Letters

variable {c : Char}

theorem isAsciiLower_iff : isAsciiLower c = true ↔ 97 ≤ c.toNat ∧ c.toNat ≤ 122 := by
  simp only [isAsciiLower, Bool.and_eq_true, decide_eq_true_eq, Char.le_def,
    UInt32.le_iff_toNat_le]
  exact Iff.rfl

theorem isAsciiUpper_iff : isAsciiUpper c = true ↔ 65 ≤ c.toNat ∧ c.toNat ≤ 90 := by
  simp only [isAsciiUpper, Bool.and_eq_true, decide_eq_true_eq, Char.le_def,
    UInt32.le_iff_toNat_le]
  exact Iff.rfl

theorem not_upper_of_lower (h : isAsciiLower c = true) : isAsciiUpper c = false := by
  rw [Bool.eq_false_iff, ne_eq, isAsciiUpper_iff]
  have hc := isAsciiLower_iff.mp h
  omega

theorem not_lower_of_upper (h : isAsciiUpper c = true) : isAsciiLower c = false := by
  rw [Bool.eq_false_iff]
  intro hlower
  rw [not_upper_of_lower hlower] at h
  cases h

theorem isAlphanumeric_of_letter (h : isAsciiLetter c = true) : isAlphanumeric c = true := by
  have hascii : c.toNat < 128 := by
    rw [isAsciiLetter, Bool.or_eq_true, isAsciiUpper_iff, isAsciiLower_iff] at h
    omega
  rw [isAlphanumeric, inClass, if_pos hascii, h]
  rfl

end Letters

section Cuts

variable {inWord : Bool} {c d e : Char} {cs rest : List Char}

theorem breakCapitalized_copy (h : (inWord && isAsciiLower c) = true) (cs : List Char) :
    breakCapitalized inWord (c :: cs) = c :: breakCapitalized true cs := by
  rw [breakCapitalized.eq_def]
  simp only [h, if_true]

theorem breakCapitalized_cut
    (h : (inWord && isAsciiLower c) = false)
    (hcut : (c != '\n' && isAsciiUpper d && isAsciiLower e) = true) (rest : List Char) :
    breakCapitalized inWord (c :: d :: e :: rest) =
      c :: '_' :: d :: breakCapitalized true (e :: rest) := by
  rw [breakCapitalized.eq_def]
  simp only [h, hcut, if_true, Bool.false_eq_true, if_false]

theorem breakCapitalized_pass
    (h : (inWord && isAsciiLower c) = false)
    (hcut : (c != '\n' && isAsciiUpper d && isAsciiLower e) = false) (rest : List Char) :
    breakCapitalized inWord (c :: d :: e :: rest) =
      c :: breakCapitalized false (d :: e :: rest) := by
  rw [breakCapitalized.eq_def]
  simp only [h, hcut, Bool.false_eq_true, if_false]

theorem breakCapitalized_ne_nil (inWord : Bool) (c : Char) (cs : List Char) :
    breakCapitalized inWord (c :: cs) ≠ [] := by
  rw [breakCapitalized.eq_def]
  dsimp only
  repeat' split
  all_goals exact List.cons_ne_nil _ _

theorem breakCapitalized_singleton (inWord : Bool) (c : Char) :
    breakCapitalized inWord [c] = [c] := by
  rw [breakCapitalized.eq_def]
  simp [breakCapitalized]

theorem breakCapitalized_pair (inWord : Bool) (c d : Char) :
    breakCapitalized inWord [c, d] = [c, d] := by
  rw [breakCapitalized.eq_def]
  simp [breakCapitalized_singleton]

/-- A text of small letters is left as it is. -/
theorem breakCapitalized_lower (inWord : Bool) (cs : List Char) :
    (∀ c ∈ cs, isAsciiLower c = true) → breakCapitalized inWord cs = cs := by
  induction inWord, cs using breakCapitalized.induct with
  | case1 inWord => exact fun _ => breakCapitalized.eq_1 inWord
  | case2 inWord c cs h ih =>
      intro hall
      rw [breakCapitalized_copy h, ih fun d hd => hall d (List.mem_cons_of_mem c hd)]
  | case3 inWord c h d e rest hcut ih =>
      intro hall
      have hd := not_upper_of_lower (hall d (by simp))
      rw [hd] at hcut
      simp at hcut
  | case4 inWord c h d e rest hcut ih =>
      intro hall
      rw [breakCapitalized_pass (Bool.eq_false_iff.mpr h) (Bool.eq_false_iff.mpr hcut),
        ih fun d hd => hall d (List.mem_cons_of_mem c hd)]
  | case5 inWord c cs h hshort =>
      intro _
      match cs, hshort with
      | [], _ => exact breakCapitalized_singleton inWord c
      | [d], _ => exact breakCapitalized_pair inWord c d
      | d :: e :: rest, hshort => exact absurd rfl (hshort d e rest)

/-- Whether a text is left at a place where a capital starts a word by itself: at its start, at
the end of a line, or behind a small letter. -/
def EndsOpen (cs : List Char) : Prop :=
  ∀ c, cs.getLast? = some c → c = '\n' ∨ isAsciiLower c = true

/-- Whether a text is another one with a word behind it, where the word is cut off or starts by
itself. -/
def CutOff (front word text : List Char) : Prop :=
  text = front ++ '_' :: word ∨ text = front ++ word ∧ EndsOpen front

theorem CutOff.cons {front word text : List Char} {c : Char} (h : CutOff front word text)
    (hopen : front = [] → c = '\n' ∨ isAsciiLower c = true) :
    CutOff (c :: front) word (c :: text) := by
  rcases h with rfl | ⟨rfl, hends⟩
  · exact .inl rfl
  · refine .inr ⟨rfl, fun last hlast => ?_⟩
    cases front with
    | nil => exact Option.some.inj hlast ▸ hopen rfl
    | cons d front =>
        rw [List.getLast?_cons_of_ne_nil (List.cons_ne_nil d front)] at hlast
        exact hends last hlast

end Cuts

section Capitalized

variable {u l : Char} {w : List Char}

theorem breakCapitalized_capitalized (hu : isAsciiUpper u = true)
    (hw : ∀ c ∈ l :: w, isAsciiLower c = true) (inWord : Bool) :
    breakCapitalized inWord (u :: l :: w) = u :: l :: w := by
  have hcopy : (inWord && isAsciiLower u) = false := by
    rw [not_lower_of_upper hu, Bool.and_false]
  cases w with
  | nil => exact breakCapitalized_pair inWord u l
  | cons e w =>
      have hl := not_upper_of_lower (hw l (List.mem_cons_self ..))
      rw [breakCapitalized_pass hcopy (by rw [hl, Bool.and_false, Bool.false_and]),
        breakCapitalized_lower false _ hw]

theorem breakCapitalized_last (hu : isAsciiUpper u = true)
    (hw : ∀ c ∈ l :: w, isAsciiLower c = true) {inWord : Bool} {c : Char}
    (hcopy : (inWord && isAsciiLower c) = false) :
    CutOff [c] (u :: l :: w) (breakCapitalized inWord (c :: u :: l :: w)) := by
  have hl := hw l (List.mem_cons_self ..)
  -- Only the end of a line does not get the cut behind it.
  by_cases hbreak : c = '\n'
  · right
    have hpass : (c != '\n' && isAsciiUpper u && isAsciiLower l) = false := by simp [hbreak]
    rw [breakCapitalized_pass hcopy hpass, breakCapitalized_capitalized hu hw]
    exact ⟨rfl, fun d hd => Or.inl (Option.some.inj hd ▸ hbreak)⟩
  · left
    have hcut : (c != '\n' && isAsciiUpper u && isAsciiLower l) = true := by
      simp [hbreak, hu, hl]
    rw [breakCapitalized_cut hcopy hcut, breakCapitalized_lower true _ hw]
    rfl

/-- A capitalised word at the end of a name is cut off from what stands in front of it. -/
theorem breakCapitalized_append (hu : isAsciiUpper u = true)
    (hw : ∀ c ∈ l :: w, isAsciiLower c = true) (inWord : Bool) (cs : List Char) :
    CutOff (breakCapitalized inWord cs) (u :: l :: w)
      (breakCapitalized inWord (cs ++ u :: l :: w)) := by
  induction inWord, cs using breakCapitalized.induct with
  | case1 inWord =>
      rw [breakCapitalized.eq_1, List.nil_append, breakCapitalized_capitalized hu hw]
      exact .inr ⟨rfl, fun c hc => nomatch hc⟩
  | case2 inWord c cs h ih =>
      rw [List.cons_append, breakCapitalized_copy h, breakCapitalized_copy h]
      exact ih.cons fun _ => .inr (Bool.and_eq_true_iff.mp h).2
  | case3 inWord c h d e rest hcut ih =>
      have hcopy := Bool.eq_false_iff.mpr h
      have hne := breakCapitalized_ne_nil true e rest
      rw [List.cons_append, List.cons_append, List.cons_append, breakCapitalized_cut hcopy hcut,
        breakCapitalized_cut hcopy hcut, ← List.cons_append]
      exact ((ih.cons (absurd · hne)).cons (absurd · (List.cons_ne_nil _ _))).cons
        (absurd · (List.cons_ne_nil _ _))
  | case4 inWord c h d e rest hcut ih =>
      have hcopy := Bool.eq_false_iff.mpr h
      have hpass := Bool.eq_false_iff.mpr hcut
      have hne := breakCapitalized_ne_nil false d (e :: rest)
      rw [List.cons_append, List.cons_append, List.cons_append, breakCapitalized_pass hcopy hpass,
        breakCapitalized_pass hcopy hpass, ← List.cons_append, ← List.cons_append]
      exact ih.cons (absurd · hne)
  | case5 inWord c cs h hshort =>
      have hcopy := Bool.eq_false_iff.mpr h
      match cs, hshort with
      | [], _ =>
          rw [breakCapitalized_singleton]
          exact breakCapitalized_last hu hw hcopy
      | [d], _ =>
          have hpass : (c != '\n' && isAsciiUpper d && isAsciiLower u) = false := by
            rw [not_lower_of_upper hu, Bool.and_false]
          rw [breakCapitalized_pair]
          show CutOff [c, d] (u :: l :: w) (breakCapitalized inWord (c :: d :: u :: l :: w))
          rw [breakCapitalized_pass hcopy hpass]
          exact (breakCapitalized_last hu hw (Bool.false_and _)).cons
            (absurd · (List.cons_ne_nil _ _))
      | d :: e :: rest, hshort => exact absurd rfl (hshort d e rest)

/-- A character that is no capital is not cut off from the text in front of it. -/
theorem breakBeforeCapital_append {c : Char} (hc : isAsciiUpper c = false) (ys : List Char) :
    ∀ xs : List Char,
      breakBeforeCapital (xs ++ c :: ys) = breakBeforeCapital xs ++ breakBeforeCapital (c :: ys)
  | [] => rfl
  | [x] => by
      rw [List.singleton_append, breakBeforeCapital, hc, Bool.and_false]
      rfl
  | x :: y :: xs => by
      have ih := breakBeforeCapital_append hc ys (y :: xs)
      rw [List.cons_append] at ih
      rw [List.cons_append, List.cons_append, breakBeforeCapital, breakBeforeCapital, ih]
      split_ifs
      · rfl
      · rfl

theorem breakBeforeCapital_lower :
    ∀ {cs : List Char}, (∀ c ∈ cs, isAsciiLower c = true) → breakBeforeCapital cs = cs
  | [], _ => rfl
  | [c], _ => rfl
  | c :: d :: cs, hall => by
      have hd := not_upper_of_lower (hall d (by simp))
      have hrest := breakBeforeCapital_lower fun e he => hall e (List.mem_cons_of_mem c he)
      rw [breakBeforeCapital, hd, Bool.and_false, if_neg Bool.false_ne_true, hrest]

/-- The words of a name with a capitalised word behind it: that word is one more. -/
theorem wordsOf_append_capitalized (hu : isAsciiUpper u = true)
    (hw : ∀ c ∈ l :: w, isAsciiLower c = true) (cs : List Char) :
    wordsOf (cs ++ u :: l :: w) = wordsOf cs ++ [u :: l :: w] := by
  have hgap : isAlphanumeric '_' = false := by decide
  have hend : isAlphanumeric '\n' = false := by decide
  have hword : breakBeforeCapital (u :: l :: w) = u :: l :: w := by
    have hl := not_upper_of_lower (hw l (List.mem_cons_self ..))
    rw [breakBeforeCapital, hl, Bool.and_false, if_neg Bool.false_ne_true,
      breakBeforeCapital_lower hw]
  have hruns : runs isAlphanumeric (u :: l :: w) = [u :: l :: w] := by
    refine runs_of_all (List.cons_ne_nil _ _) fun c hc => isAlphanumeric_of_letter ?_
    rw [isAsciiLetter, Bool.or_eq_true]
    rcases List.mem_cons.mp hc with rfl | hc
    · exact Or.inl hu
    · exact Or.inr (hw c hc)
  rcases breakCapitalized_append hu hw false cs with hcut | ⟨hcut, hopen⟩
  · have hbreak : breakBeforeCapital ('_' :: u :: l :: w) = '_' :: u :: l :: w := by
      rw [breakBeforeCapital, hword]
      rfl
    rw [wordsOf, wordsOf, hcut, breakBeforeCapital_append (by decide), hbreak,
      runs_append_of_gap hgap, hruns]
  · rw [wordsOf, wordsOf, hcut]
    rcases List.eq_nil_or_concat (breakCapitalized false cs) with hnil | ⟨init, last, hlast⟩
    · rw [hnil, List.nil_append, hword, hruns]
      rfl
    · rw [hlast] at hopen ⊢
      rw [List.concat_eq_append, List.append_assoc, List.singleton_append]
      rcases hopen last (by simp) with rfl | hlower
      · have hbreak : breakBeforeCapital ('\n' :: u :: l :: w) = '\n' :: u :: l :: w := by
          rw [breakBeforeCapital, hword]
          rfl
        rw [breakBeforeCapital_append (by decide), breakBeforeCapital_append (by decide), hbreak,
          runs_append_of_gap hend, hruns]
        show _ = runs isAlphanumeric (breakBeforeCapital init ++ '\n' :: []) ++ _
        rw [runs_append_of_gap hend, runs, List.append_nil]
      · have hbreak : breakBeforeCapital (last :: u :: l :: w) = last :: '_' :: u :: l :: w := by
          rw [breakBeforeCapital, hlower, hu, hword]
          rfl
        have hupper := not_upper_of_lower hlower
        rw [breakBeforeCapital_append hupper, breakBeforeCapital_append hupper, hbreak,
          ← List.singleton_append, ← List.append_assoc, runs_append_of_gap hgap, hruns]
        rfl

end Capitalized

section Spelling

theorem joinUnderscore_append_singleton (w : List Char) :
    ∀ {ws : List (List Char)}, ws ≠ [] →
      joinUnderscore (ws ++ [w]) = joinUnderscore ws ++ '_' :: w
  | [], h => absurd rfl h
  | [v], _ => rfl
  | v :: v' :: ws, _ => by
      have ih := joinUnderscore_append_singleton w (List.cons_ne_nil v' ws)
      rw [List.cons_append] at ih
      rw [List.cons_append, List.cons_append, joinUnderscore, ih, joinUnderscore,
        List.append_assoc, List.cons_append]

/-- The underscore is no letter, so a name that gets one differs from every name that does not. -/
theorem withLeadingLetter_injective : Function.Injective withLeadingLetter := by
  have hunderscore : isAlphabetic '_' = false := by decide
  have hhead : ∀ c cs, withLeadingLetter (c :: cs) = c :: cs ∧ isAlphabetic c = true ∨
      withLeadingLetter (c :: cs) = '_' :: c :: cs := by
    intro c cs
    rw [withLeadingLetter]
    split_ifs with hc
    · exact Or.inl ⟨rfl, hc⟩
    · exact Or.inr rfl
  intro xs ys h
  cases xs with
  | nil =>
      cases ys with
      | nil => rfl
      | cons d ds => exact absurd h.symm (withLeadingLetter_ne_nil (List.cons_ne_nil d ds))
  | cons c cs =>
      cases ys with
      | nil => exact absurd h (withLeadingLetter_ne_nil (List.cons_ne_nil c cs))
      | cons d ds =>
          rcases hhead c cs with ⟨hxs, hc⟩ | hxs
          · rcases hhead d ds with ⟨hys, -⟩ | hys
            · rwa [hxs, hys] at h
            · rw [hxs, hys] at h
              rw [(List.cons.inj h).1, hunderscore] at hc
              cases hc
          · rcases hhead d ds with ⟨hys, hd⟩ | hys
            · rw [hxs, hys] at h
              rw [← (List.cons.inj h).1, hunderscore] at hd
              cases hd
            · rw [hxs, hys] at h
              exact (List.cons.inj h).2

theorem snakeChars_append_repository (cs : List Char) :
    snakeChars (cs ++ "Repository".toList) =
      withLeadingLetter (joinUnderscore
        ((wordsOf cs).map lowerChars ++ [lowerChars "Repository".toList])) := by
  have hlower : ∀ c ∈ "epository".toList, isAsciiLower c = true := List.all_eq_true.mp rfl
  have hwords : wordsOf (cs ++ "Repository".toList) = wordsOf cs ++ ["Repository".toList] :=
    wordsOf_append_capitalized (by decide) hlower cs
  have hsome : wordsOrUnnamed (cs ++ "Repository".toList) =
      wordsOf cs ++ ["Repository".toList] := by
    rw [wordsOrUnnamed, hwords]
    cases wordsOf cs with
    | nil => rfl
    | cons v vs => rfl
  rw [snakeChars, hsome, List.map_append, List.map_singleton]

/-- Repositories with one file name belong to entities with one file name. -/
theorem snake_eq_of_repositoryName {s t : String}
    (h : snake (Normalizer.repositoryName s) = snake (Normalizer.repositoryName t)) :
    snake s = snake t := by
  have hsuffix : ∀ name, (Normalizer.repositoryName name).toList =
      name.toList ++ "Repository".toList := fun name => String.toList_append
  have hchars := congrArg String.toList h
  simp only [snake, String.toList_ofList, hsuffix, snakeChars_append_repository] at hchars
  have hjoin := withLeadingLetter_injective hchars
  generalize lowerChars "Repository".toList = last at hjoin
  -- With words in front there is an underscore before the last one, and without there is none.
  have hmore : ∀ v vs, joinUnderscore (List.map lowerChars (v :: vs) ++ [last]) =
      joinUnderscore (List.map lowerChars (v :: vs)) ++ '_' :: last :=
    fun v vs => joinUnderscore_append_singleton _ (List.cons_ne_nil _ _)
  have hnone : ∀ v vs, joinUnderscore (List.map lowerChars (v :: vs) ++ [last]) ≠ last := by
    intro v vs heq
    rw [hmore] at heq
    have hlength := congrArg List.length heq
    simp only [List.length_append, List.length_cons] at hlength
    omega
  simp only [snake, snakeChars, wordsOrUnnamed]
  cases hs : wordsOf s.toList with
  | nil =>
      cases ht : wordsOf t.toList with
      | nil => rfl
      | cons w ws =>
          rw [hs, ht] at hjoin
          exact absurd hjoin.symm (hnone w ws)
  | cons w ws =>
      cases ht : wordsOf t.toList with
      | nil =>
          rw [hs, ht] at hjoin
          exact absurd hjoin (hnone w ws)
      | cons v vs =>
          rw [hs, ht, hmore, hmore] at hjoin
          rw [List.append_cancel_right hjoin]

end Spelling

end Name
end TableCast
