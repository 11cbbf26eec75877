import TableCast.Number.Floating
import TableCast.Proofs.Name.Alphabets

/-!
# The characters of numbers

Integers and doubles are written with digits, signs, points and the letters of an exponent or of a
special value, whatever their value.

**Results.**
* `figures_int`, `figures_number`: the texts of integers and doubles.
-/

namespace TableCast
namespace Number

open Name Text

/-- The characters that numbers are written with. -/
def isFigure (c : Char) : Bool := isPlain c || c == '.' || c == '+' || c == '-'

def Figures (cs : List Char) : Prop := ∀ c ∈ cs, isFigure c = true

section Digits

variable {c : Char} {cs ds : List Char}

theorem figures_nil : Figures [] := fun _ hc => absurd hc List.not_mem_nil

theorem figures_cons : Figures (c :: cs) ↔ isFigure c = true ∧ Figures cs :=
  List.forall_mem_cons

theorem figures_append : Figures (cs ++ ds) ↔ Figures cs ∧ Figures ds :=
  List.forall_mem_append

theorem Figures.subset (h : Figures cs) (hsubset : ds ⊆ cs) : Figures ds :=
  fun c hc => h c (hsubset hc)

theorem figures_digits (n : Nat) : Figures (Nat.toDigits 10 n) := by
  intro c hc
  have hdigit : isAsciiDigit c = true := Nat.isDigit_of_mem_toDigits (by omega) (by omega) hc
  rw [isFigure, isPlain, hdigit, Bool.or_true]
  rfl

theorem figures_zeros (n : Nat) : Figures (List.replicate n '0') := by
  intro c hc
  rw [List.eq_of_mem_replicate hc]
  rfl

theorem figures_int (n : Int) : Figures (toString n).toList := by
  cases n with
  | ofNat n =>
      show Figures (Nat.repr n).toList
      rw [Nat.toList_repr]
      exact figures_digits n
  | negSucc n =>
      show Figures ("-" ++ Nat.repr (n + 1)).toList
      rw [String.toList_append, Nat.toList_repr, figures_append]
      exact ⟨figures_cons.mpr ⟨rfl, figures_nil⟩, figures_digits _⟩

end Digits

section Doubles

variable {digits : List Char}

theorem figures_shortestDigits (b : Binary) : Figures (shortestDigits b).1 := by
  intro c hc
  have hdigit := (List.dropWhile_sublist _).subset (List.mem_reverse.mp hc)
  exact figures_digits _ c (List.mem_reverse.mp hdigit)

theorem figures_positional (h : Figures digits) (point : Int) :
    Figures (positional digits point) := by
  simp only [positional]
  split_ifs
  · simp only [List.cons_append, figures_cons, figures_append]
    exact ⟨rfl, rfl, figures_zeros _, h⟩
  · simp only [figures_cons, figures_append]
    exact ⟨⟨h, figures_zeros _⟩, rfl, rfl, figures_nil⟩
  · simp only [figures_cons, figures_append]
    exact ⟨h.subset (List.take_subset _ _), rfl, h.subset (List.drop_subset _ _)⟩

theorem figures_scientific (h : Figures digits) (point : Int) :
    Figures (scientific digits point) := by
  have hmagnitude := figures_digits (point - 1).natAbs
  simp only [scientific, figures_append, figures_cons]
  refine ⟨?_, rfl, ?_, ?_⟩
  · match digits, h with
    | [], _ => exact figures_cons.mpr ⟨rfl, figures_nil⟩
    | [d], h => exact h
    | d :: e :: rest, h =>
        obtain ⟨hd, hrest⟩ := figures_cons.mp h
        exact figures_cons.mpr ⟨hd, figures_cons.mpr ⟨rfl, hrest⟩⟩
  · split_ifs
    · rfl
    · rfl
  · split_ifs
    · exact figures_cons.mpr ⟨rfl, hmagnitude⟩
    · exact hmagnitude

/-- The text of a number without its sign. -/
theorem figures_magnitude (b : Binary) : Figures
    (if b.significand == 0 then ['0', '.', '0']
      else if -4 < (shortestDigits b).2 && (shortestDigits b).2 ≤ 16 then
        positional (shortestDigits b).1 (shortestDigits b).2
      else scientific (shortestDigits b).1 (shortestDigits b).2) := by
  split_ifs
  · simp only [figures_cons]
    exact ⟨rfl, rfl, rfl, figures_nil⟩
  · exact figures_positional (figures_shortestDigits b) _
  · exact figures_scientific (figures_shortestDigits b) _

theorem figures_number (x : Float) : Figures (Number.text x).toList := by
  have hall : ∀ s ∈ ["nan", "inf", "-inf"], s.toList.all isFigure = true := by decide
  have hword : ∀ s ∈ ["nan", "inf", "-inf"], Figures s.toList := fun s hs =>
    List.all_eq_true.mp (hall s hs)
  rw [Number.text]
  split
  · exact hword _ (by decide)
  · split
    · split
      · exact hword _ (by decide)
      · exact hword _ (by decide)
    · rw [String.toList_ofList]
      cases hnegative : (Binary.ofFloat x).negative with
      | true => exact figures_cons.mpr ⟨rfl, figures_magnitude (Binary.ofFloat x)⟩
      | false => exact figures_magnitude (Binary.ofFloat x)

end Doubles

end Number
end TableCast
