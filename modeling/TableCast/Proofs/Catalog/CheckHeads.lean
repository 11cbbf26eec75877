import TableCast.Catalog.Sqlite
import TableCast.Proofs.Name.FileNames
import TableCast.Proofs.Text.Trimming

/-!
# Where checks on lists begin

A check that a column is in a list begins with the word check and a parenthesis, and goes on with
the name of the column, the word in and the parenthesis that opens the list.  Blanks may stand
between these parts, and the two words may be written in any letter case.

**Grammar.**  `ListHead` is such a beginning, `HasListHead` says of a text that one stands in it.

**Results.**
* `listHead?_text`, `exists_of_listHead?`: the beginnings that are read are those of the grammar.
* `exists_listHead?_of_append`: a beginning does not reach into another one behind it.
-/

namespace TableCast
namespace Catalog
namespace Sqlite

open Text Name

section Letters

variable {c w v : Char}

/-- The code points of the blanks. -/
def blankCodes : List Nat :=
  [9, 10, 11, 12, 13, 28, 29, 30, 31, 32, 0x85, 0xA0, 0x1680, 0x2000, 0x2001, 0x2002, 0x2003,
    0x2004, 0x2005, 0x2006, 0x2007, 0x2008, 0x2009, 0x200A, 0x2028, 0x2029, 0x202F, 0x205F, 0x3000]

theorem toNat_mem_blankCodes (h : isBlank c = true) : c.toNat ∈ blankCodes := by
  simp only [isBlank, Bool.or_eq_true, Bool.and_eq_true, beq_iff_eq, decide_eq_true_eq] at h
  simp only [blankCodes, List.mem_cons, List.not_mem_nil]
  omega

/-- A blank is no part of a word. -/
theorem isWordChar_of_isBlank (h : isBlank c = true) : isWordChar c = false := by
  have hall : blankCodes.all (fun n => !isWordChar (Char.ofNat n)) = true := by decide +kernel
  have hc := List.all_eq_true.mp hall c.toNat (toNat_mem_blankCodes h)
  rwa [Char.ofNat_toNat, Bool.not_eq_true'] at hc

theorem isBlank_of_isWordChar (h : isWordChar c = true) : isBlank c = false :=
  Bool.eq_false_iff.mpr fun hblank => Bool.eq_false_iff.mp (isWordChar_of_isBlank hblank) h

/-- The variants of a small letter. -/
theorem toNat_of_equalIgnoringCase (h : equalIgnoringCase w c = true) :
    c.toNat = w.toNat ∨ c.toNat + 32 = w.toNat ∨ w = 's' ∧ c.toNat = 0x17F ∨
      w = 'k' ∧ c.toNat = 0x212A ∨ w = 'i' ∧ (c.toNat = 0x130 ∨ c.toNat = 0x131) := by
  simp only [equalIgnoringCase, Bool.or_eq_true, Bool.and_eq_true, beq_iff_eq] at h
  obtain ((h | h) | h) | h := h
  · rw [asciiLower] at h
    split_ifs at h with hupper
    · have hc := isAsciiUpper_iff.mp hupper
      refine .inr (.inl ?_)
      rw [← h, Char.toNat_ofNat, if_pos (by rw [Nat.isValidChar]; omega)]
    · exact .inl (by rw [h])
  · exact .inr (.inr (.inl h))
  · exact .inr (.inr (.inr (.inl h)))
  · exact .inr (.inr (.inr (.inr h)))

/-- A character is a variant of at most one small letter. -/
theorem equalIgnoringCase_inj (hw : isAsciiLower w = true) (hv : isAsciiLower v = true)
    (h : equalIgnoringCase w c = true) (h' : equalIgnoringCase v c = true) : w = v := by
  have hwn := isAsciiLower_iff.mp hw
  have hvn := isAsciiLower_iff.mp hv
  have hsame : w.toNat = v.toNat → w = v := fun heq => Char.ext (UInt32.toNat_inj.mp heq)
  rcases toNat_of_equalIgnoringCase h with h | h | ⟨rfl, h⟩ | ⟨rfl, h⟩ | ⟨rfl, h⟩ <;>
    rcases toNat_of_equalIgnoringCase h' with h' | h' | ⟨rfl, h'⟩ | ⟨rfl, h'⟩ | ⟨rfl, h'⟩ <;>
    first
    | rfl
    | exact hsame (by omega)

theorem isWordChar_of_equalIgnoringCase (hw : isAsciiLower w = true)
    (h : equalIgnoringCase w c = true) : isWordChar c = true := by
  have hwn := isAsciiLower_iff.mp hw
  have hvariant : ∀ n, isWordChar (Char.ofNat n) = true → c.toNat = n → isWordChar c = true := by
    rintro n hn rfl
    rwa [Char.ofNat_toNat] at hn
  have hletter : isAsciiLetter c = true → isWordChar c = true := fun hc => by
    rw [isWordChar, isAlphanumeric_of_letter hc]
    rfl
  rcases toNat_of_equalIgnoringCase h with h | h | ⟨-, h⟩ | ⟨-, h⟩ | ⟨-, h | h⟩
  · refine hletter ?_
    rw [isAsciiLetter, Bool.or_eq_true, isAsciiLower_iff]
    omega
  · refine hletter ?_
    rw [isAsciiLetter, Bool.or_eq_true, isAsciiUpper_iff]
    omega
  · exact hvariant _ (by decide +kernel) h
  · exact hvariant _ (by decide +kernel) h
  · exact hvariant _ (by decide +kernel) h
  · exact hvariant _ (by decide +kernel) h

end Letters

/-- The text spells the word, in whatever letter case. -/
def InAnyCase (word text : List Char) : Prop :=
  List.Forall₂ (fun w c => equalIgnoringCase w c = true) word text

instance (word text : List Char) : Decidable (InAnyCase word text) :=
  inferInstanceAs (Decidable (List.Forall₂ _ word text))

/-- The signs in front of a quoted name. -/
def isOpening (c : Char) : Bool := c == '"' || c == '\x60' || c == '['

/-- The signs behind a quoted name. -/
def isClosing (c : Char) : Bool := c == '"' || c == '\x60' || c == ']'

/-- The beginning of a check that a column is in a list, up to the list. -/
structure ListHead where
  check : List Char
  beforeParenthesis : List Char := []
  beforeColumn : List Char := []
  opening : Option Char := none
  column : List Char
  closing : Option Char := none
  behindColumn : List Char
  within : List Char
  beforeList : List Char := []
  check_eq : InAnyCase "check".toList check
  beforeParenthesis_blank : ∀ c ∈ beforeParenthesis, isBlank c = true
  beforeColumn_blank : ∀ c ∈ beforeColumn, isBlank c = true
  opening_eq : ∀ c ∈ opening, isOpening c = true
  column_ne : column ≠ []
  column_word : ∀ c ∈ column, isWordChar c = true
  closing_eq : ∀ c ∈ closing, isClosing c = true
  behindColumn_ne : behindColumn ≠ []
  behindColumn_blank : ∀ c ∈ behindColumn, isBlank c = true
  within_eq : InAnyCase "in".toList within
  beforeList_blank : ∀ c ∈ beforeList, isBlank c = true

/-- The text of a beginning, with what stands behind it. -/
def ListHead.text (h : ListHead) (rest : List Char) : List Char :=
  h.check ++ (h.beforeParenthesis ++ '(' :: (h.beforeColumn ++ (h.opening.toList ++ (h.column ++
    (h.closing.toList ++ (h.behindColumn ++ (h.within ++ (h.beforeList ++ '(' :: rest))))))))

/-- The beginning of a check on a list stands in the text. -/
def HasListHead (text : List Char) : Prop :=
  ∃ (h : ListHead) (rest : List Char), h.text rest <:+ text

/-- The beginning of a check on a list at the start of a text: the column, and what stands behind
the parenthesis that opens the list. -/
def listHead? (cs : List Char) : Option (List Char × List Char) := do
  let cs ← afterWord? "check".toList cs
  let cs ← afterChar? '(' cs
  let (column, cs) ← quotedName? cs
  let cs ← afterBlanks? cs
  let cs ← afterWord? "in".toList cs
  let cs ← afterChar? '(' cs
  return (column, cs)

section Parts

variable {cs ws rest name : List Char} {sign c d : Char}

theorem afterWord?_eq_some_iff :
    afterWord? ws cs = some rest ↔ ∃ word, InAnyCase ws word ∧ cs = word ++ rest := by
  induction ws generalizing cs with
  | nil =>
      constructor
      · intro h
        exact ⟨[], .nil, Option.some.inj h⟩
      · rintro ⟨word, hword, rfl⟩
        cases hword
        rfl
  | cons w ws ih =>
      cases cs with
      | nil =>
          refine ⟨nofun, ?_⟩
          rintro ⟨word, hword, heq⟩
          cases hword
          cases heq
      | cons c cs =>
          rw [afterWord?]
          split_ifs with hc
          · rw [ih]
            constructor
            · rintro ⟨word, hword, rfl⟩
              exact ⟨c :: word, .cons hc hword, rfl⟩
            · rintro ⟨word, hword, heq⟩
              cases hword with
              | cons hd hword => exact ⟨_, hword, (List.cons.inj heq).2⟩
          · refine ⟨nofun, ?_⟩
            rintro ⟨word, hword, heq⟩
            cases hword with
            | cons hd hword =>
                obtain rfl := (List.cons.inj heq).1
                exact absurd hd hc

theorem afterChar?_eq_some :
    afterChar? sign cs = some rest ↔ trimLeftBy isBlank cs = sign :: rest := by
  rw [afterChar?]
  cases trimLeftBy isBlank cs with
  | nil => exact ⟨nofun, nofun⟩
  | cons c tail => simp

theorem afterChar?_eq_some_iff (hsign : isBlank sign = false) :
    afterChar? sign cs = some rest ↔
      ∃ gap, (∀ c ∈ gap, isBlank c = true) ∧ cs = gap ++ sign :: rest :=
  afterChar?_eq_some.trans (trimLeftBy_eq_cons_iff hsign)

theorem dropOne_eq {p : Char → Bool} (cs : List Char) :
    ∃ sign : Option Char, (∀ c ∈ sign, p c = true) ∧ cs = sign.toList ++ dropOne p cs := by
  cases cs with
  | nil => exact ⟨none, nofun, rfl⟩
  | cons c cs =>
      rw [dropOne]
      split_ifs with hc
      · exact ⟨some c, fun d hd => Option.some.inj hd ▸ hc, rfl⟩
      · exact ⟨none, nofun, rfl⟩

theorem dropOne_append_cons {p : Char → Bool} (hd : p d = false) :
    dropOne p (cs ++ d :: rest) = dropOne p cs ++ d :: rest := by
  cases cs with
  | nil => exact if_neg (Bool.eq_false_iff.mp hd)
  | cons c cs =>
      rw [List.cons_append, dropOne, dropOne]
      split_ifs <;> rfl

theorem dropOne_append {p : Char → Bool} {sign : Option Char} (hsign : ∀ c ∈ sign, p c = true)
    (hd : p d = false) : dropOne p (sign.toList ++ d :: cs) = d :: cs := by
  cases sign with
  | none => exact if_neg (Bool.eq_false_iff.mp hd)
  | some c => exact if_pos (hsign c rfl)

/-- A sign around a quoted name is neither a blank nor a part of a word. -/
theorem plain_of_opening (h : isOpening c = true) : isBlank c = false ∧ isWordChar c = false := by
  simp only [isOpening, Bool.or_eq_true, beq_iff_eq] at h
  obtain (rfl | rfl) | rfl := h <;> exact ⟨by decide, by decide⟩

theorem plain_of_closing (h : isClosing c = true) : isBlank c = false ∧ isWordChar c = false := by
  simp only [isClosing, Bool.or_eq_true, beq_iff_eq] at h
  obtain (rfl | rfl) | rfl := h <;> exact ⟨by decide, by decide⟩

theorem isOpening_of_isWordChar (h : isWordChar c = true) : isOpening c = false :=
  Bool.eq_false_iff.mpr fun hsign => Bool.eq_false_iff.mp (plain_of_opening hsign).2 h

theorem isClosing_of_isWordChar (h : isWordChar c = true) : isClosing c = false :=
  Bool.eq_false_iff.mpr fun hsign => Bool.eq_false_iff.mp (plain_of_closing hsign).2 h

theorem isClosing_of_isBlank (h : isBlank c = true) : isClosing c = false :=
  Bool.eq_false_iff.mpr fun hsign => Bool.eq_false_iff.mp (plain_of_closing hsign).1 h

/-- The text from the first character of a name on. -/
def opened (cs : List Char) : List Char :=
  dropOne isOpening (trimLeftBy isBlank cs)

theorem quotedName?_eq_some_iff :
    quotedName? cs = some (name, rest) ↔
      name ≠ [] ∧ (opened cs).takeWhile isWordChar = name ∧
        dropOne isClosing ((opened cs).dropWhile isWordChar) = rest := by
  have heq : quotedName? cs = if ((opened cs).takeWhile isWordChar).isEmpty then none
      else some ((opened cs).takeWhile isWordChar,
        dropOne isClosing ((opened cs).dropWhile isWordChar)) := rfl
  rw [heq]
  constructor
  · intro h
    split_ifs at h with hempty
    obtain ⟨rfl, rfl⟩ := Prod.mk.inj (Option.some.inj h)
    exact ⟨by rwa [List.isEmpty_iff] at hempty, rfl, rfl⟩
  · rintro ⟨hne, rfl, rfl⟩
    rw [if_neg (by rwa [List.isEmpty_iff])]

/-- A name is read to the end of its word. -/
theorem quotedName?_append {gap : List Char} {opening closing : Option Char}
    (hgap : ∀ c ∈ gap, isBlank c = true) (hopening : ∀ c ∈ opening, isOpening c = true)
    (hne : name ≠ []) (hword : ∀ c ∈ name, isWordChar c = true)
    (hclosing : ∀ c ∈ closing, isClosing c = true) (hd : isBlank d = true) :
    quotedName? (gap ++ (opening.toList ++ (name ++ (closing.toList ++ d :: cs)))) =
      some (name, d :: cs) := by
  obtain ⟨n, ns, rfl⟩ := List.exists_cons_of_ne_nil hne
  have hn := hword n (List.mem_cons_self ..)
  have hopened : opened (gap ++ (opening.toList ++ (n :: ns ++ (closing.toList ++ d :: cs)))) =
      n :: ns ++ (closing.toList ++ d :: cs) := by
    have htrim : trimLeftBy isBlank
        (gap ++ (opening.toList ++ (n :: ns ++ (closing.toList ++ d :: cs)))) =
          opening.toList ++ (n :: ns ++ (closing.toList ++ d :: cs)) := by
      cases opening with
      | none => exact (trimLeftBy_eq_cons_iff (isBlank_of_isWordChar hn)).mpr ⟨gap, hgap, rfl⟩
      | some c =>
          exact (trimLeftBy_eq_cons_iff (plain_of_opening (hopening c rfl)).1).mpr ⟨gap, hgap, rfl⟩
    rw [opened, htrim]
    exact dropOne_append hopening (isOpening_of_isWordChar hn)
  -- The word ends at the closing sign, or at the blank.
  obtain ⟨e, es, hbehind, he⟩ :
      ∃ e es, closing.toList ++ d :: cs = e :: es ∧ isWordChar e = false := by
    cases closing with
    | none => exact ⟨d, cs, rfl, isWordChar_of_isBlank hd⟩
    | some c => exact ⟨c, d :: cs, rfl, (plain_of_closing (hclosing c rfl)).2⟩
  refine quotedName?_eq_some_iff.mpr ⟨hne, ?_, ?_⟩
  · rw [hopened, hbehind, List.takeWhile_append_of_pos hword,
      List.takeWhile_cons_of_neg (Bool.eq_false_iff.mp he), List.append_nil]
  · rw [hopened, List.dropWhile_append_of_pos hword, hbehind,
      List.dropWhile_cons_of_neg (Bool.eq_false_iff.mp he), ← hbehind]
    exact dropOne_append hclosing (isClosing_of_isBlank hd)

/-- And nothing else is read as a name. -/
theorem exists_of_quotedName? (h : quotedName? cs = some (name, rest)) :
    ∃ (gap : List Char) (opening closing : Option Char), (∀ c ∈ gap, isBlank c = true) ∧
      (∀ c ∈ opening, isOpening c = true) ∧ name ≠ [] ∧ (∀ c ∈ name, isWordChar c = true) ∧
      (∀ c ∈ closing, isClosing c = true) ∧
      cs = gap ++ (opening.toList ++ (name ++ (closing.toList ++ rest))) := by
  obtain ⟨hne, rfl, rfl⟩ := quotedName?_eq_some_iff.mp h
  obtain ⟨gap, hgap, hcs⟩ := exists_trimLeftBy isBlank cs
  obtain ⟨opening, hopening, hopened⟩ := @dropOne_eq isOpening (trimLeftBy isBlank cs)
  obtain ⟨closing, hclosing, hclosed⟩ := @dropOne_eq isClosing ((opened cs).dropWhile isWordChar)
  refine ⟨gap, opening, closing, hgap, hopening, hne, fun _ hc => List.mem_takeWhile_imp hc,
    hclosing, ?_⟩
  rw [← hclosed, List.takeWhile_append_dropWhile, opened, ← hopened]
  exact hcs

theorem afterBlanks?_append {gap : List Char} (hne : gap ≠ [])
    (hgap : ∀ c ∈ gap, isBlank c = true) (hd : isBlank d = false) :
    afterBlanks? (gap ++ d :: cs) = some (d :: cs) := by
  obtain ⟨c, gap, rfl⟩ := List.exists_cons_of_ne_nil hne
  obtain ⟨hc, hrest⟩ := List.forall_mem_cons.mp hgap
  rw [List.cons_append, afterBlanks?, if_pos hc,
    (trimLeftBy_eq_cons_iff hd).mpr ⟨gap, hrest, rfl⟩]

theorem exists_of_afterBlanks? (h : afterBlanks? cs = some rest) :
    ∃ gap, gap ≠ [] ∧ (∀ c ∈ gap, isBlank c = true) ∧ cs = gap ++ rest := by
  cases cs with
  | nil => cases h
  | cons c cs =>
      rw [afterBlanks?] at h
      split_ifs at h with hc
      obtain ⟨gap, hgap, hcs⟩ := exists_trimLeftBy isBlank cs
      refine ⟨c :: gap, List.cons_ne_nil _ _, List.forall_mem_cons.mpr ⟨hc, hgap⟩, ?_⟩
      rw [List.cons_append, ← Option.some.inj h, ← hcs]

end Parts

section Heads

variable {cs rest column : List Char}

/-- What the parts of a beginning leave behind them. -/
theorem listHead?_eq_some_iff :
    listHead? cs = some (column, rest) ↔
      ∃ behindCheck inside behindName atIn behindIn,
        afterWord? "check".toList cs = some behindCheck ∧
        afterChar? '(' behindCheck = some inside ∧
        quotedName? inside = some (column, behindName) ∧
        afterBlanks? behindName = some atIn ∧
        afterWord? "in".toList atIn = some behindIn ∧
        afterChar? '(' behindIn = some rest := by
  simp only [listHead?, Option.bind_eq_bind, Option.bind_eq_some_iff, Prod.exists, Option.pure_def,
    Option.some.injEq, Prod.mk.injEq]
  constructor
  · rintro ⟨a, ha, b, hb, n, c, hc, d, hd, e, he, f, hf, rfl, rfl⟩
    exact ⟨a, b, c, d, e, ha, hb, hc, hd, he, hf⟩
  · rintro ⟨a, b, c, d, e, ha, hb, hc, hd, he, hf⟩
    exact ⟨a, ha, b, hb, column, c, hc, d, hd, e, he, rest, hf, rfl, rfl⟩

/-- The word in does not start with a blank. -/
theorem exists_within (h : ListHead) : ∃ i within, h.within = i :: within ∧ isBlank i = false := by
  have hin := h.within_eq
  cases heq : h.within with
  | nil => exact absurd (heq ▸ hin) nofun
  | cons i within =>
      rw [heq] at hin
      cases hin with
      | cons hi _ =>
          have hword := isWordChar_of_equalIgnoringCase (by decide) hi
          exact ⟨i, within, rfl, isBlank_of_isWordChar hword⟩

/-- The beginning of a check is read. -/
theorem listHead?_text (h : ListHead) (rest : List Char) :
    listHead? (h.text rest) = some (h.column, rest) := by
  have hname : quotedName? (h.beforeColumn ++ (h.opening.toList ++ (h.column ++
      (h.closing.toList ++ (h.behindColumn ++ (h.within ++ (h.beforeList ++ '(' :: rest))))))) =
        some (h.column, h.behindColumn ++ (h.within ++ (h.beforeList ++ '(' :: rest))) := by
    obtain ⟨b, gap, hbehind⟩ := List.exists_cons_of_ne_nil h.behindColumn_ne
    rw [hbehind]
    exact quotedName?_append h.beforeColumn_blank h.opening_eq h.column_ne h.column_word
      h.closing_eq (h.behindColumn_blank b (hbehind ▸ List.mem_cons_self ..))
  have hblanks : afterBlanks? (h.behindColumn ++ (h.within ++ (h.beforeList ++ '(' :: rest))) =
      some (h.within ++ (h.beforeList ++ '(' :: rest)) := by
    obtain ⟨i, within, hwithin, hi⟩ := exists_within h
    rw [hwithin]
    exact afterBlanks?_append h.behindColumn_ne h.behindColumn_blank hi
  exact listHead?_eq_some_iff.mpr ⟨_, _, _, _, _,
    afterWord?_eq_some_iff.mpr ⟨h.check, h.check_eq, rfl⟩,
    (afterChar?_eq_some_iff (by decide)).mpr ⟨_, h.beforeParenthesis_blank, rfl⟩, hname, hblanks,
    afterWord?_eq_some_iff.mpr ⟨h.within, h.within_eq, rfl⟩,
    (afterChar?_eq_some_iff (by decide)).mpr ⟨_, h.beforeList_blank, rfl⟩⟩

/-- And nothing else is read as one. -/
theorem exists_of_listHead? (h : listHead? cs = some (column, rest)) :
    ∃ head : ListHead, head.column = column ∧ cs = head.text rest := by
  obtain ⟨_, _, _, _, _, hcheck, hopen, hname, hblanks, hin, hlist⟩ := listHead?_eq_some_iff.mp h
  obtain ⟨check, check_eq, rfl⟩ := afterWord?_eq_some_iff.mp hcheck
  obtain ⟨beforeParenthesis, beforeParenthesis_blank, rfl⟩ :=
    (afterChar?_eq_some_iff (by decide)).mp hopen
  obtain ⟨beforeColumn, opening, closing, beforeColumn_blank, opening_eq, column_ne, column_word,
    closing_eq, rfl⟩ := exists_of_quotedName? hname
  obtain ⟨behindColumn, behindColumn_ne, behindColumn_blank, rfl⟩ := exists_of_afterBlanks? hblanks
  obtain ⟨within, within_eq, rfl⟩ := afterWord?_eq_some_iff.mp hin
  obtain ⟨beforeList, beforeList_blank, rfl⟩ := (afterChar?_eq_some_iff (by decide)).mp hlist
  let head : ListHead :=
    { check := check, beforeParenthesis, beforeColumn, opening, column, closing, behindColumn,
      within, beforeList, check_eq, beforeParenthesis_blank, beforeColumn_blank, opening_eq,
      column_ne, column_word, closing_eq, behindColumn_ne, behindColumn_blank, within_eq,
      beforeList_blank }
  exact ⟨head, rfl, rfl⟩

/-- A text in which no check on a list begins. -/
theorem listHead?_eq_none (h : ¬ HasListHead cs) : listHead? cs = none := by
  cases hread : listHead? cs with
  | none => rfl
  | some read =>
      obtain ⟨head, -, rfl⟩ := exists_of_listHead? hread
      exact absurd ⟨head, read.2, List.suffix_rfl⟩ h

theorem not_hasListHead_of_cons {c : Char} (h : ¬ HasListHead (c :: cs)) : ¬ HasListHead cs :=
  fun ⟨head, rest, hsuffix⟩ => h ⟨head, rest, hsuffix.trans (List.suffix_cons c cs)⟩

/-- A beginning stands in a text where one can be read off the end of it. -/
theorem hasListHead_iff :
    HasListHead cs ↔ (cs.tails.any fun behind => (listHead? behind).isSome) = true := by
  rw [List.any_eq_true]
  constructor
  · rintro ⟨head, rest, hsuffix⟩
    exact ⟨_, (List.mem_tails _ _).mpr hsuffix, by rw [listHead?_text]; rfl⟩
  · rintro ⟨behind, hmem, hsome⟩
    obtain ⟨⟨column, rest⟩, hread⟩ := Option.isSome_iff_exists.mp hsome
    obtain ⟨head, -, rfl⟩ := exists_of_listHead? hread
    exact ⟨head, rest, (List.mem_tails _ _).mp hmem⟩

instance : DecidablePred HasListHead := fun _ => decidable_of_iff _ hasListHead_iff.symm

end Heads

section Overlaps

variable {ws x t rest name : List Char} {sign c : Char}

/-- A word that is read off a text with another text behind it stands in front of that text, or goes
on in it. -/
theorem afterWord?_of_append (h : afterWord? ws (x ++ t) = some rest) :
    (∃ tail, afterWord? ws x = some tail ∧ rest = tail ++ t) ∨
      x.length < ws.length ∧ afterWord? (ws.drop x.length) t = some rest := by
  induction ws generalizing x with
  | nil => exact .inl ⟨x, rfl, (Option.some.inj h).symm⟩
  | cons w ws ih =>
      cases x with
      | nil => exact .inr ⟨Nat.succ_pos _, h⟩
      | cons c x =>
          rw [List.cons_append, afterWord?] at h
          split_ifs at h with hc
          rcases ih h with ⟨tail, hread, hrest⟩ | ⟨hlength, hread⟩
          · exact .inl ⟨tail, by rw [afterWord?, if_pos hc, hread], hrest⟩
          · exact .inr ⟨Nat.succ_lt_succ hlength, hread⟩

theorem afterChar?_of_append (hc : isBlank c = false) (hsign : c ≠ sign)
    (h : afterChar? sign (x ++ c :: t) = some rest) :
    ∃ tail, afterChar? sign x = some tail ∧ rest = tail ++ c :: t := by
  rw [afterChar?_eq_some, trimLeftBy_append_cons hc] at h
  cases htrim : trimLeftBy isBlank x with
  | nil =>
      rw [htrim] at h
      exact absurd (List.cons.inj h).1 hsign
  | cons d tail =>
      rw [htrim] at h
      obtain ⟨rfl, hrest⟩ := List.cons.inj h
      exact ⟨tail, afterChar?_eq_some.mpr htrim, hrest.symm⟩

theorem afterBlanks?_of_append (hc : isBlank c = false)
    (h : afterBlanks? (x ++ c :: t) = some rest) :
    ∃ tail, afterBlanks? x = some tail ∧ rest = tail ++ c :: t := by
  cases x with
  | nil =>
      rw [List.nil_append, afterBlanks?, hc] at h
      cases h
  | cons d x =>
      rw [List.cons_append, afterBlanks?] at h
      split_ifs at h with hd
      refine ⟨trimLeftBy isBlank x, by rw [afterBlanks?, if_pos hd], ?_⟩
      rw [← Option.some.inj h, trimLeftBy_append_cons hc]

/-- A name that is read off a text with a word behind it stands in front of the word, or the word
ends it. -/
theorem quotedName?_of_append {w : Char} {u : List Char}
    (hword : ∀ c ∈ w :: ws, isWordChar c = true)
    (hu : ∀ c ∈ u.head?, isWordChar c = false ∧ isClosing c = false)
    (h : quotedName? (x ++ w :: (ws ++ u)) = some (name, rest)) :
    (∃ tail, quotedName? x = some (name, tail) ∧ rest = tail ++ w :: (ws ++ u)) ∨ rest = u := by
  have hw := hword w (List.mem_cons_self ..)
  obtain ⟨hne, hname, hrest⟩ := quotedName?_eq_some_iff.mp h
  have hopened : opened (x ++ w :: (ws ++ u)) = opened x ++ w :: (ws ++ u) := by
    rw [opened, trimLeftBy_append_cons (isBlank_of_isWordChar hw),
      dropOne_append_cons (isOpening_of_isWordChar hw), opened]
  rw [hopened, List.takeWhile_append] at hname
  rw [hopened, List.dropWhile_append] at hrest
  split_ifs at hrest with hempty
  · -- The name goes on to the end of the word.
    have hbehind : (w :: (ws ++ u)).dropWhile isWordChar = u := by
      rw [← List.cons_append, List.dropWhile_append_of_pos hword]
      cases u with
      | nil => rfl
      | cons c u => exact List.dropWhile_cons_of_neg (Bool.eq_false_iff.mp (hu c rfl).1)
    have hclosed : dropOne isClosing u = u := by
      cases u with
      | nil => rfl
      | cons c u => exact if_neg (Bool.eq_false_iff.mp (hu c rfl).2)
    rw [hbehind, hclosed] at hrest
    exact .inr hrest.symm
  · have hshort : ((opened x).takeWhile isWordChar).length ≠ (opened x).length := by
      have hall := congrArg List.length (@List.takeWhile_append_dropWhile _ isWordChar (opened x))
      have hpos := List.length_pos_iff.mpr (fun hnil => hempty (List.isEmpty_iff.mpr hnil))
      rw [List.length_append] at hall
      omega
    rw [if_neg hshort] at hname
    rw [dropOne_append_cons (isClosing_of_isWordChar hw)] at hrest
    exact .inl ⟨_, quotedName?_eq_some_iff.mpr ⟨hne, hname, rfl⟩, hrest.symm⟩

theorem isWordChar_of_inAnyCase {word : List Char} (hword : ∀ w ∈ word, isAsciiLower w = true)
    (h : InAnyCase word x) : ∀ c ∈ x, isWordChar c = true := by
  induction h with
  | nil => exact nofun
  | cons hc _ ih =>
      obtain ⟨hw, hword⟩ := List.forall_mem_cons.mp hword
      exact List.forall_mem_cons.mpr ⟨isWordChar_of_equalIgnoringCase hw hc, ih hword⟩

/-- A beginning is a word with the letters c and h in front, and then a parenthesis. -/
theorem ListHead.exists_text (h : ListHead) (rest : List Char) :
    ∃ c d ws gap u, h.text rest = c :: (d :: ws ++ (gap ++ '(' :: u)) ∧
      equalIgnoringCase 'c' c = true ∧ equalIgnoringCase 'h' d = true ∧
      (∀ e ∈ c :: d :: ws, isWordChar e = true) ∧ ∀ e ∈ gap, isBlank e = true := by
  have hlower : "check".toList.all isAsciiLower = true := by decide
  have hword := isWordChar_of_inAnyCase (List.all_eq_true.mp hlower) h.check_eq
  have hcheck := h.check_eq
  rw [ListHead.text]
  cases hc : h.check with
  | nil => exact absurd (hc ▸ hcheck) nofun
  | cons c tail =>
      rw [hc] at hcheck hword
      cases hcheck with
      | cons hfirst hcheck =>
          cases hcheck with
          | @cons _ d _ ws hsecond _ =>
              exact ⟨c, d, ws, _, _, rfl, hfirst, hsecond, hword, h.beforeParenthesis_blank⟩

/-- The word check does not stand at the end of another one. -/
theorem afterWord?_check_drop {d : Char} {n : Nat} (hc : equalIgnoringCase 'c' c = true)
    (hd : equalIgnoringCase 'h' d = true) (hpos : 0 < n) (hlt : n < 5) :
    afterWord? ("check".toList.drop n) (c :: d :: t) = none := by
  have hother : ∀ {v w e : Char}, isAsciiLower v = true → isAsciiLower w = true → v ≠ w →
      equalIgnoringCase v e = true → equalIgnoringCase w e = false := fun hv hw hne he =>
    Bool.eq_false_iff.mpr fun hwe => hne (equalIgnoringCase_inj hv hw he hwe)
  have hfirst : ∀ {w ws}, isAsciiLower w = true → 'c' ≠ w →
      afterWord? (w :: ws) (c :: d :: t) = none := fun hw hne => by
    rw [afterWord?, hother (by decide) hw hne hc]
    rfl
  obtain rfl | rfl | rfl | rfl : n = 1 ∨ n = 2 ∨ n = 3 ∨ n = 4 := by omega
  · exact hfirst (by decide) (by decide)
  · exact hfirst (by decide) (by decide)
  · show afterWord? ('c' :: 'k' :: []) (c :: d :: t) = none
    rw [afterWord?, if_pos hc, afterWord?, hother (by decide) (by decide) (by decide) hd]
    rfl
  · exact hfirst (by decide) (by decide)

/-- And the word in does not start in front of it. -/
theorem afterWord?_in_drop {n : Nat} (hc : equalIgnoringCase 'c' c = true) (hlt : n < 2) :
    afterWord? ("in".toList.drop n) (c :: t) = none := by
  have hother : ∀ {w ws}, isAsciiLower w = true → 'c' ≠ w → afterWord? (w :: ws) (c :: t) = none :=
    fun hw hne => by
      rw [afterWord?, if_neg fun hwc => hne (equalIgnoringCase_inj (by decide) hw hc hwc)]
  obtain rfl | rfl : n = 0 ∨ n = 1 := by omega
  · exact hother (by decide) (by decide)
  · exact hother (by decide) (by decide)

/-- The word in does not stand between a name and a parenthesis. -/
theorem afterBlanks?_parenthesis {gap atIn : List Char} (hgap : ∀ c ∈ gap, isBlank c = true)
    (h : afterBlanks? (gap ++ '(' :: t) = some atIn) : afterWord? "in".toList atIn = none := by
  obtain ⟨tail, htail, rfl⟩ := afterBlanks?_of_append (by decide) h
  cases gap with
  | nil => cases htail
  | cons c gap =>
      rw [afterBlanks?_append (List.cons_ne_nil _ _) hgap (by decide)] at h
      rw [← Option.some.inj h]
      rfl

/-- **Beginnings do not overlap.**  A beginning that is read off a text with another one behind it
stands in front of the other one. -/
theorem exists_listHead?_of_append {head : ListHead} {column : List Char} (hne : x ≠ [])
    (h : listHead? (x ++ head.text t) = some (column, rest)) :
    ∃ tail, listHead? x = some (column, tail) := by
  obtain ⟨c, d, ws, gap, u, htext, hc, hd, hword, hgap⟩ := head.exists_text t
  rw [htext] at h
  have hwordc := hword c (List.mem_cons_self ..)
  have hblank := isBlank_of_isWordChar hwordc
  have hparen : c ≠ '(' := by
    rintro rfl
    exact absurd hwordc (by decide)
  have hu : ∀ e ∈ (gap ++ '(' :: u).head?, isWordChar e = false ∧ isClosing e = false := by
    cases gap with
    | nil =>
        rintro e heq
        obtain rfl := Option.some.inj heq
        exact ⟨by decide, by decide⟩
    | cons b gap =>
        rintro e heq
        obtain rfl := Option.some.inj heq
        have hb := hgap b (List.mem_cons_self ..)
        exact ⟨isWordChar_of_isBlank hb, isClosing_of_isBlank hb⟩
  obtain ⟨_, _, _, _, _, hcheck, hopen, hname, hblanks, hin, hlist⟩ := listHead?_eq_some_iff.mp h
  obtain ⟨behindCheck, hcheck', rfl⟩ | ⟨hlt, hread⟩ := afterWord?_of_append hcheck
  · obtain ⟨inside, hopen', rfl⟩ := afterChar?_of_append hblank hparen hopen
    obtain ⟨behindName, hname', rfl⟩ | rfl := quotedName?_of_append hword hu hname
    · obtain ⟨atIn, hblanks', rfl⟩ := afterBlanks?_of_append hblank hblanks
      obtain ⟨behindIn, hin', rfl⟩ | ⟨hlt, hread⟩ := afterWord?_of_append hin
      · obtain ⟨tail, hlist', -⟩ := afterChar?_of_append hblank hparen hlist
        exact ⟨tail, listHead?_eq_some_iff.mpr
          ⟨_, _, _, _, _, hcheck', hopen', hname', hblanks', hin', hlist'⟩⟩
      · rw [afterWord?_in_drop hc hlt] at hread
        cases hread
    · rw [afterBlanks?_parenthesis hgap hblanks] at hin
      cases hin
  · rw [List.cons_append, afterWord?_check_drop hc hd (List.length_pos_iff.mpr hne) hlt] at hread
    cases hread

end Overlaps

end Sqlite
end Catalog
end TableCast
