import TableCast.Emit.Artifact
import TableCast.Proofs.Name.Alphabets
import TableCast.Proofs.Text.Pieces
import TableCast.Text.Quoted

/-!
# Texts on one line

A line ends at a line feed or at a carriage return.  A text without either of them stays on one line
wherever it is written: a quoted text does, whatever it quotes.

**Results.**
* `oneLine_quoted`: a quoted text.
* `oneLine_replaced_iff`: a text whose line feeds are replaced.
* `linesOf_unlines`, `oneLine_of_mem_linesOf`: the lines of a text that is written line by line, and
  that no line holds the end of one.
-/

namespace TableCast
namespace Text

open Name

/-- The characters that end a line. -/
def isBreak (c : Char) : Bool := c == '\n' || c == '\r'

/-- Characters that end no line. -/
def Unbroken (cs : List Char) : Prop := ∀ c ∈ cs, isBreak c = false

/-- A text that ends no line. -/
def OneLine (s : String) : Prop := Unbroken s.toList

/-- The lines of a text. -/
def linesOf (text : String) : List String :=
  (text.toList.splitOnP isBreak).map String.ofList

section Parts

variable {c : Char} {cs ds : List Char} {s t : String}

theorem unbroken_nil : Unbroken [] := fun _ hc => absurd hc List.not_mem_nil

theorem unbroken_cons : Unbroken (c :: cs) ↔ isBreak c = false ∧ Unbroken cs :=
  List.forall_mem_cons

theorem unbroken_append : Unbroken (cs ++ ds) ↔ Unbroken cs ∧ Unbroken ds :=
  List.forall_mem_append

theorem oneLine_append : OneLine (s ++ t) ↔ OneLine s ∧ OneLine t := by
  rw [OneLine, String.toList_append]
  exact unbroken_append

theorem oneLine_ofList : OneLine (String.ofList cs) ↔ Unbroken cs := by
  rw [OneLine, String.toList_ofList]

/-- A fixed text is looked at character by character. -/
theorem oneLine_text (h : (cs.all fun c => !isBreak c) = true) : OneLine (String.ofList cs) := by
  refine oneLine_ofList.mpr fun c hc => ?_
  rw [← Bool.not_eq_true']
  exact List.all_eq_true.mp h c hc

theorem isBreak_of_tame (h : isTame c = true) : isBreak c = false := by
  rw [isBreak, Bool.or_eq_false_iff, beq_eq_false_iff_ne, beq_eq_false_iff_ne]
  constructor
  · rintro rfl
    exact absurd h (by decide)
  · rintro rfl
    exact absurd h (by decide)

end Parts

section Quotes

theorem isBreak_hexDigit {n : Nat} (h : n < 16) : isBreak (Quoted.hexDigit n) = false := by
  have hall : ∀ n < 16, isBreak (Quoted.hexDigit n) = false := by decide
  exact hall n h

theorem unbroken_hexDigits (width n : Nat) : Unbroken (Quoted.hexDigits width n) := by
  induction width generalizing n with
  | zero => exact unbroken_nil
  | succ width ih =>
      rw [Quoted.hexDigits, unbroken_append, unbroken_cons]
      exact ⟨ih _, isBreak_hexDigit (Nat.mod_lt _ (by omega)), unbroken_nil⟩

theorem isBreak_quoteFor (cs : List Char) : isBreak (Quoted.quoteFor cs) = false := by
  rw [Quoted.quoteFor]
  split_ifs
  · rfl
  · rfl

theorem unbroken_escape {quote c : Char} (hquote : isBreak quote = false) :
    Unbroken (Quoted.escape quote c) := by
  rw [Quoted.escape]
  split_ifs with hspecial hfeed hreturn
  · rw [Bool.or_eq_true, beq_iff_eq, beq_iff_eq] at hspecial
    rw [unbroken_cons, unbroken_cons]
    refine ⟨rfl, ?_, unbroken_nil⟩
    rcases hspecial with rfl | rfl
    · exact hquote
    · rfl
  · exact unbroken_cons.mpr ⟨rfl, unbroken_cons.mpr ⟨rfl, unbroken_nil⟩⟩
  · exact unbroken_cons.mpr ⟨rfl, unbroken_cons.mpr ⟨rfl, unbroken_nil⟩⟩
  · exact unbroken_cons.mpr ⟨rfl, unbroken_cons.mpr ⟨rfl, unbroken_nil⟩⟩
  · -- Both line ends are told apart above.
    refine unbroken_cons.mpr ⟨?_, unbroken_nil⟩
    rw [isBreak, Bool.or_eq_false_iff]
    exact ⟨Bool.eq_false_iff.mpr hfeed, Bool.eq_false_iff.mpr hreturn⟩
  · exact unbroken_cons.mpr ⟨rfl, unbroken_cons.mpr ⟨rfl, unbroken_hexDigits _ _⟩⟩
  · exact unbroken_cons.mpr ⟨rfl, unbroken_cons.mpr ⟨rfl, unbroken_hexDigits _ _⟩⟩
  · exact unbroken_cons.mpr ⟨rfl, unbroken_cons.mpr ⟨rfl, unbroken_hexDigits _ _⟩⟩

theorem oneLine_quoted (s : String) : OneLine (Quoted.text s) := by
  have hquote := isBreak_quoteFor s.toList
  rw [Quoted.text, oneLine_ofList, Quoted.chars, unbroken_append, unbroken_cons, unbroken_cons]
  refine ⟨⟨hquote, fun c hc => ?_⟩, hquote, unbroken_nil⟩
  obtain ⟨d, -, hc⟩ := List.mem_flatMap.mp hc
  exact unbroken_escape hquote c hc

/-- A text whose line feeds are replaced is on one line unless it holds a carriage return. -/
theorem oneLine_replaced_iff {s : String} :
    OneLine (replaced s "\n" " ") ↔ '\r' ∉ s.toList := by
  have hchars : (replaced s "\n" " ").toList = s.toList.flatMap (imageOf '\n' [' ']) :=
    toList_replaced rfl
  have himage : ∀ c, Unbroken (imageOf '\n' [' '] c) ↔ c ≠ '\r' := by
    intro c
    by_cases hfeed : c = '\n'
    · rw [hfeed, imageOf_self]
      exact iff_of_true (unbroken_cons.mpr ⟨rfl, unbroken_nil⟩) (by decide)
    · rw [imageOf_of_ne hfeed]
      simp [Unbroken, isBreak, hfeed]
  have hall : OneLine (replaced s "\n" " ") ↔
      ∀ c ∈ s.toList, Unbroken (imageOf '\n' [' '] c) := by
    rw [OneLine, hchars]
    exact List.forall_mem_flatMap
  rw [hall]
  simp only [himage]
  exact List.forall_mem_ne'

end Quotes

theorem unlines_cons (line : String) (lines : List String) :
    Emit.unlines (line :: lines) = line ++ "\n" ++ Emit.unlines lines := by
  rw [Emit.unlines, List.map_cons, String.join_cons]
  rfl

theorem unlines_append (before after : List String) :
    Emit.unlines (before ++ after) = Emit.unlines before ++ Emit.unlines after := by
  rw [Emit.unlines, List.map_append, String.join_append]
  rfl

/-- A text that is written line by line has the lines of each of them, and nothing behind the last
end. -/
theorem linesOf_unlines (lines : List String) :
    linesOf (Emit.unlines lines) = lines.flatMap linesOf ++ [""] := by
  have hchars : (Emit.unlines lines).toList = lines.flatMap fun line => line.toList ++ ['\n'] := by
    rw [Emit.unlines, String.toList_join, List.flatMap_map]
    simp only [String.toList_append]
    rfl
  rw [linesOf, hchars]
  clear hchars
  induction lines with
  | nil => rfl
  | cons line lines ih =>
      rw [List.flatMap_cons, List.append_assoc, List.singleton_append,
        List.splitOnP_append_cons _ _ rfl, List.map_append, ih, List.flatMap_cons,
        List.append_assoc]
      rfl

theorem oneLine_of_mem_linesOf {line text : String} (h : line ∈ linesOf text) : OneLine line := by
  obtain ⟨piece, hpiece, rfl⟩ := List.mem_map.mp h
  exact oneLine_ofList.mpr fun c hc => (mem_of_mem_splitOnP hpiece c hc).2

/-- A carriage return ends a line. -/
theorem linesOf_return (front back : String) :
    linesOf (front ++ "\r" ++ back) = linesOf front ++ linesOf back := by
  have hchars : (front ++ "\r" ++ back).toList = front.toList ++ '\r' :: back.toList := by
    rw [String.toList_append, String.toList_append, List.append_assoc]
    rfl
  rw [linesOf, hchars, List.splitOnP_append_cons _ _ rfl, List.map_append]
  rfl

theorem linesOf_oneLine {line : String} (h : OneLine line) : linesOf line = [line] := by
  rw [linesOf, List.splitOnP_eq_singleton h, List.map_singleton, String.ofList_toList]

end Text
end TableCast
