import TableCast.Number.Reading
import TableCast.Proofs.Text.Trimming

/-!
# Spellings of integers

An integer is spelled by decimal digits, most significant first, with a sign in front of them that
only a negative one needs.  Leading zeros are allowed; there are at most as many digits as may be
read.

**Results.**
* `Spells.mem_numerals`, `Spells.forall_mem`: the characters of a spelling.
* `readInteger_of_spells`: a spelling is read as its integer.
-/

namespace TableCast
namespace Number

open Text

/-- Digits that an integer may be written with, most significant first. -/
structure IsDigits (digits : List Nat) : Prop where
  ne_nil : digits ≠ []
  lt_ten : ∀ d ∈ digits, d < 10
  short : digits.length ≤ maxDigits

/-- The number that digits are written for. -/
def digitsNumber (digits : List Nat) : Nat := Nat.ofDigits 10 digits.reverse

/-- The characters of digits. -/
def digitChars (digits : List Nat) : List Char := digits.map Nat.digitChar

/-- A text is a decimal spelling of an integer. -/
inductive Spells : List Char → Int → Prop
  | unsigned {digits : List Nat} (h : IsDigits digits) :
      Spells (digitChars digits) (digitsNumber digits)
  | positive {digits : List Nat} (h : IsDigits digits) :
      Spells ('+' :: digitChars digits) (digitsNumber digits)
  | negative {digits : List Nat} (h : IsDigits digits) :
      Spells ('-' :: digitChars digits) (-(digitsNumber digits))

/-- The characters that integers are spelled with. -/
def numerals : List Char :=
  ['+', '-', '0', '1', '2', '3', '4', '5', '6', '7', '8', '9']

section Digits

variable {digits : List Nat}

theorem decimalValue?_digitChar {d : Nat} (h : d < 10) :
    decimalValue? (Nat.digitChar d) = some d := by
  have hall : ∀ d < 10, decimalValue? (Nat.digitChar d) = some d := by decide
  exact hall d h

theorem mem_digitChars {c : Char} (h : ∀ d ∈ digits, d < 10) (hc : c ∈ digitChars digits) :
    ∃ d < 10, c = Nat.digitChar d := by
  obtain ⟨d, hd, rfl⟩ := List.mem_map.mp hc
  exact ⟨d, h d hd, rfl⟩

theorem digitChar_mem_numerals {d : Nat} (h : d < 10) : Nat.digitChar d ∈ numerals := by
  have hall : ∀ d < 10, Nat.digitChar d ∈ numerals := by decide
  exact hall d h

theorem ne_of_digit {c : Char} (h : ∃ d < 10, c = Nat.digitChar d) :
    c ≠ '_' ∧ c ≠ '+' ∧ c ≠ '-' := by
  obtain ⟨d, hd, rfl⟩ := h
  have hall : ∀ d < 10, Nat.digitChar d ≠ '_' ∧ Nat.digitChar d ≠ '+' ∧ Nat.digitChar d ≠ '-' := by
    decide
  exact hall d hd

theorem digitsValue_eq_ofDigits (acc : Nat) (digits : List Nat) :
    digitsValue acc digits = Nat.ofDigits 10 (digits.reverse ++ [acc]) := by
  induction digits generalizing acc with
  | nil => simp [digitsValue]
  | cons d digits ih =>
      show digitsValue (10 * acc + d) digits = _
      rw [ih, List.reverse_cons, List.append_assoc, Nat.ofDigits_append, Nat.ofDigits_append,
        List.singleton_append, Nat.ofDigits_singleton, Nat.ofDigits_cons, Nat.ofDigits_singleton,
        Nat.add_comm d]

theorem digitsValue_zero (digits : List Nat) : digitsValue 0 digits = digitsNumber digits := by
  rw [digitsValue_eq_ofDigits, Nat.ofDigits_append, Nat.ofDigits_singleton, Nat.mul_zero,
    Nat.add_zero, digitsNumber]

theorem groupedDigits?_digitChars (hne : digits ≠ []) (h : ∀ d ∈ digits, d < 10) :
    groupedDigits? (digitChars digits) = some digits := by
  induction digits with
  | nil => exact absurd rfl hne
  | cons d digits ih =>
      obtain ⟨hd, hdigits⟩ := List.forall_mem_cons.mp h
      cases digits with
      | nil => simp [digitChars, groupedDigits?, decimalValue?_digitChar hd]
      | cons e rest =>
          have hrest := ih (List.cons_ne_nil _ _) hdigits
          have he : Nat.digitChar e ≠ '_' :=
            (ne_of_digit ⟨e, hdigits e (List.mem_cons_self ..), rfl⟩).1
          rw [digitChars, List.map_cons, ← digitChars, groupedDigits?,
            decimalValue?_digitChar hd, hrest]
          · rfl
          · exact fun hnil => absurd hnil (List.cons_ne_nil _ _)
          · exact fun _ heq => he (List.cons.inj heq).1

theorem splitSign_digitChars (h : ∀ d ∈ digits, d < 10) :
    splitSign (digitChars digits) = (false, digitChars digits) := by
  rw [splitSign]
  · intro cs heq
    exact (ne_of_digit (mem_digitChars h (heq ▸ List.mem_cons_self ..))).2.2 rfl
  · intro cs heq
    exact (ne_of_digit (mem_digitChars h (heq ▸ List.mem_cons_self ..))).2.1 rfl

theorem signedInteger_of_digits (h : IsDigits digits) (negative : Bool) :
    signedInteger negative digits =
      .ok (if negative then -(digitsNumber digits : Int) else digitsNumber digits) := by
  rw [signedInteger, if_neg (Nat.not_lt.mpr h.short), digitsValue_zero]

end Digits

section Spellings

variable {cs : List Char} {n : Int}

theorem Spells.mem_numerals (h : Spells cs n) : ∀ c ∈ cs, c ∈ numerals := by
  have hdigits : ∀ {digits : List Nat}, IsDigits digits →
      ∀ c ∈ digitChars digits, c ∈ numerals := by
    intro digits hdigits c hc
    obtain ⟨d, hd, rfl⟩ := mem_digitChars hdigits.lt_ten hc
    exact digitChar_mem_numerals hd
  cases h with
  | unsigned h => exact hdigits h
  | positive h => exact List.forall_mem_cons.mpr ⟨by decide, hdigits h⟩
  | negative h => exact List.forall_mem_cons.mpr ⟨by decide, hdigits h⟩

/-- What holds of all characters that integers are spelled with holds of every spelling. -/
theorem Spells.forall_mem (h : Spells cs n) {p : Char → Bool} (hp : numerals.all p = true) :
    ∀ c ∈ cs, p c = true :=
  fun c hc => List.all_eq_true.mp hp c (h.mem_numerals c hc)

theorem Spells.ne_nil (h : Spells cs n) : cs ≠ [] := by
  cases h with
  | unsigned h => exact fun hnil => h.ne_nil (List.map_eq_nil_iff.mp hnil)
  | positive _ => exact List.cons_ne_nil _ _
  | negative _ => exact List.cons_ne_nil _ _

/-- The sign and the digits of a spelling. -/
theorem Spells.exists_splitSign (h : Spells cs n) :
    ∃ negative digits, IsDigits digits ∧ splitSign cs = (negative, digitChars digits) ∧
      n = if negative then -(digitsNumber digits : Int) else digitsNumber digits := by
  cases h with
  | unsigned h => exact ⟨false, _, h, splitSign_digitChars h.lt_ten, rfl⟩
  | positive h => exact ⟨false, _, h, rfl, rfl⟩
  | negative h => exact ⟨true, _, h, rfl, rfl⟩

/-- A text without blanks is trimmed. -/
theorem Spells.trimBlanks (h : Spells cs n) : trimBlanks cs = cs := by
  have hblank : ∀ c ∈ cs, isBlank c = false := fun c hc =>
    Bool.not_eq_true' _ ▸ h.forall_mem (p := fun c => !isBlank c) (by decide) c hc
  exact trimBy_of_ends (fun c hc => hblank c (List.mem_of_mem_head? hc))
    fun c hc => hblank c (List.mem_of_mem_getLast? hc)

/-- **A spelling is read as its integer.** -/
theorem readInteger_of_spells (h : Spells cs n) : readInteger cs = .ok n := by
  obtain ⟨negative, digits, hdigits, hsplit, rfl⟩ := h.exists_splitSign
  simp only [readInteger, h.trimBlanks, hsplit,
    groupedDigits?_digitChars hdigits.ne_nil hdigits.lt_ten]
  exact signedInteger_of_digits hdigits negative

end Spellings

end Number
end TableCast
