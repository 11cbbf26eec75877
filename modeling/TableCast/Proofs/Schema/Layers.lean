import TableCast.Proofs.Text.Trimming
import TableCast.Schema.Default

/-!
# The layers of a default expression

A default expression is a core with layers around it: blanks, enclosing parentheses and trailing
casts, in any order and to any depth.  `Layered` is the grammar of such expressions; `unwrap` takes
the layers away one by one.

**Results.**
* `length_unwrapOnce?_lt`, `unwrapOnce?_unwrap`: every layer that is taken away makes the text
  shorter, and in the end there is none left.
* `layered_unwrap`: an expression has the layers that were taken away around what is left.
* `unwrap_of_layered`: layers around an expression do not change what is left, so no step cuts into
  the core.
* `layered_iff_of_bare`: both together, for a core without layers.
-/

namespace TableCast
namespace Schema

open Text

/-- The text of a type behind a cast. -/
def IsCastType (type : List Char) : Prop :=
  (∀ c ∈ type, isCastChar c = true) ∧ ∃ c ∈ type, isBlank c = false

/-- The expressions that are a core with layers around it. -/
inductive Layered (core : List Char) : List Char → Prop
  | core : Layered core core
  | blanks {before cs after : List Char} (hbefore : ∀ c ∈ before, isBlank c = true)
      (hafter : ∀ c ∈ after, isBlank c = true) (h : Layered core cs) :
      Layered core (before ++ cs ++ after)
  | parentheses {cs : List Char} (h : Layered core cs) : Layered core ('(' :: (cs ++ [')']))
  | cast {cs type : List Char} (htype : IsCastType type) (h : Layered core cs) :
      Layered core (cs ++ ':' :: ':' :: type)

/-- A text that has no layer around it. -/
structure IsBare (cs : List Char) : Prop where
  trimmed : trimBlanks cs = cs
  unlayered : unwrapOnce? cs = none

section Casts

variable {before cs type inner : List Char}

theorem not_isCastChar_colon : isCastChar ':' = false := by decide

theorem not_isCastChar_parenthesis : isCastChar ')' = false := by decide

theorem beforeCast?_cons (before cs : List Char) (c : Char) :
    beforeCast? before (c :: cs) =
      match cs with
      | ':' :: type =>
        if c == ':' && !type.isEmpty && type.all isCastChar then some before.reverse
        else beforeCast? (c :: before) cs
      | _ => beforeCast? (c :: before) cs := by
  by_cases hc : c = ':'
  · obtain rfl := hc
    cases cs with
    | nil => rfl
    | cons d type =>
        by_cases hd : d = ':'
        · obtain rfl := hd
          rw [beforeCast?]
          simp
        · rw [beforeCast?]
          · split
            · next heq => exact absurd (List.cons.inj heq).1 hd
            · rfl
          · intro type _ heq
            exact absurd (List.cons.inj heq).1 hd
  · rw [beforeCast?]
    · split
      · next type =>
          rw [show (c == ':') = false from beq_eq_false_iff_ne.mpr hc]
          rfl
      · rfl
    · intro type heq _
      exact absurd heq hc

/-- The text in front of a cast that is found: everything behind it is a type. -/
theorem beforeCast?_eq_some (h : beforeCast? before cs = some inner) :
    ∃ front type, cs = front ++ ':' :: ':' :: type ∧ type ≠ [] ∧
      (∀ c ∈ type, isCastChar c = true) ∧ inner = before.reverse ++ front := by
  induction cs generalizing before with
  | nil => cases h
  | cons c cs ih =>
      have hlater : beforeCast? (c :: before) cs = some inner →
          ∃ front type, c :: cs = front ++ ':' :: ':' :: type ∧ type ≠ [] ∧
            (∀ c ∈ type, isCastChar c = true) ∧ inner = before.reverse ++ front := by
        intro hrest
        obtain ⟨front, type, rfl, hne, htype, rfl⟩ := ih hrest
        exact ⟨c :: front, type, rfl, hne, htype, by simp⟩
      rw [beforeCast?_cons] at h
      split at h
      · next type =>
          split_ifs at h with hcast
          · simp only [Bool.and_eq_true, beq_iff_eq, Bool.not_eq_true', List.isEmpty_eq_false_iff,
              List.all_eq_true] at hcast
            obtain ⟨⟨rfl, hne⟩, htype⟩ := hcast
            exact ⟨[], type, rfl, hne, htype, by simpa using h.symm⟩
          · exact hlater h
      · exact hlater h

/-- A cast is found behind whatever stands in front of it: at every earlier place for a cast, the
colons of this one would have to be part of the type. -/
theorem beforeCast?_cast (hne : type ≠ []) (htype : ∀ c ∈ type, isCastChar c = true)
    (before cs : List Char) :
    beforeCast? before (cs ++ ':' :: ':' :: type) = some (before.reverse ++ cs) := by
  induction cs generalizing before with
  | nil =>
      rw [List.nil_append, beforeCast?_cons]
      have hall : type.all isCastChar = true := List.all_eq_true.mpr htype
      simp [hne, hall]
  | cons c cs ih =>
      have hrest := ih (c :: before)
      rw [List.reverse_cons, List.append_assoc, List.singleton_append] at hrest
      rw [List.cons_append, beforeCast?_cons]
      split
      · next rest heq =>
          have hcolon : ':' ∈ rest := by
            cases cs with
            | nil =>
                obtain rfl := (List.cons.inj heq).2
                exact List.mem_cons_self ..
            | cons d cs =>
                obtain rfl := (List.cons.inj heq).2
                exact List.mem_append_right _ (List.mem_cons_self ..)
          have hnot : rest.all isCastChar = false := by
            rw [List.all_eq_false]
            exact ⟨':', hcolon, by rw [not_isCastChar_colon]; exact Bool.false_ne_true⟩
          rw [hnot, Bool.and_false, if_neg Bool.false_ne_true]
          exact hrest
      · exact hrest

/-- There is no cast at the end of a text that ends with a character outside of types. -/
theorem beforeCast?_eq_none {c : Char} (hc : isCastChar c = false) (before cs : List Char) :
    beforeCast? before (cs ++ [c]) = none := by
  cases h : beforeCast? before (cs ++ [c]) with
  | none => rfl
  | some inner =>
      obtain ⟨front, type, htext, hne, htype, -⟩ := beforeCast?_eq_some h
      have hlast : type.getLast hne = c := by
        have := congrArg List.getLast? htext
        rw [List.getLast?_concat, List.getLast?_append_of_ne_nil _ (by simp),
          List.getLast?_cons_cons, List.getLast?_cons_of_ne_nil hne,
          List.getLast?_eq_some_getLast hne] at this
        exact (Option.some.inj this).symm
      rw [← hlast, htype _ (List.getLast_mem hne)] at hc
      cases hc

end Casts

section Steps

variable {cs ds inner : List Char}

theorem insideParentheses?_eq_some :
    insideParentheses? cs = some inner ↔ cs = '(' :: (inner ++ [')']) := by
  constructor
  · intro h
    rw [insideParentheses?.eq_def] at h
    split at h
    · next rest =>
        split_ifs at h with hlast
        obtain rfl := Option.some.inj h
        rw [List.dropLast_append_getLast? _ (by simpa using hlast)]
    · cases h
  · rintro rfl
    simp [insideParentheses?]

/-- What is left when one layer is taken away. -/
theorem unwrapOnce?_eq_some (h : unwrapOnce? cs = some inner) :
    (∃ front type, cs = front ++ ':' :: ':' :: type ∧ type ≠ [] ∧
      (∀ c ∈ type, isCastChar c = true) ∧ inner = trimBlanks front) ∨
    ∃ body, cs = '(' :: (body ++ [')']) ∧ inner = trimBlanks body := by
  rw [unwrapOnce?] at h
  split at h
  · next front hcast =>
      obtain ⟨front, type, htext, hne, htype, rfl⟩ := beforeCast?_eq_some hcast
      exact .inl ⟨front, type, htext, hne, htype, (Option.some.inj h).symm⟩
  · obtain ⟨body, hbody, rfl⟩ := Option.map_eq_some_iff.mp h
    exact .inr ⟨body, insideParentheses?_eq_some.mp hbody, rfl⟩

/-- **Every layer that is taken away makes the text shorter.** -/
theorem length_unwrapOnce?_lt (h : unwrapOnce? cs = some inner) : inner.length < cs.length := by
  rcases unwrapOnce?_eq_some h with ⟨front, type, rfl, -, -, rfl⟩ | ⟨body, rfl, rfl⟩
  · have hle := length_trimBy_le isBlank front
    rw [← trimBlanks] at hle
    rw [List.length_append, List.length_cons]
    omega
  · have hle := length_trimBy_le isBlank body
    rw [← trimBlanks] at hle
    rw [List.length_cons, List.length_append]
    omega

/-- What is left has no blanks at its ends. -/
theorem trimBlanks_of_unwrapOnce? (h : unwrapOnce? cs = some inner) : trimBlanks inner = inner := by
  rcases unwrapOnce?_eq_some h with ⟨front, -, -, -, -, rfl⟩ | ⟨body, -, rfl⟩
  · exact trimBy_idem isBlank front
  · exact trimBy_idem isBlank body

theorem unwrapUpTo_of_none (h : unwrapOnce? cs = none) (fuel : Nat) : unwrapUpTo fuel cs = cs := by
  cases fuel with
  | zero => rfl
  | succ fuel => rw [unwrapUpTo, h]

theorem unwrapUpTo_of_some (h : unwrapOnce? cs = some inner) (fuel : Nat) :
    unwrapUpTo (fuel + 1) cs = unwrapUpTo fuel inner := by
  rw [unwrapUpTo, h]

/-- As many steps as there are characters are enough. -/
theorem unwrapUpTo_eq {fuel : Nat} (h : cs.length ≤ fuel) :
    unwrapUpTo fuel cs = unwrapUpTo cs.length cs := by
  induction hlength : cs.length using Nat.strong_induction_on generalizing cs fuel with
  | _ n ih =>
      obtain rfl := hlength
      cases hstep : unwrapOnce? cs with
      | none => rw [unwrapUpTo_of_none hstep, unwrapUpTo_of_none hstep]
      | some inner =>
          have hlt := length_unwrapOnce?_lt hstep
          obtain ⟨m, rfl⟩ := Nat.exists_eq_succ_of_ne_zero (show fuel ≠ 0 by omega)
          obtain ⟨k, hk⟩ := Nat.exists_eq_succ_of_ne_zero (show cs.length ≠ 0 by omega)
          rw [hk, Nat.succ_eq_add_one, Nat.succ_eq_add_one, unwrapUpTo_of_some hstep,
            unwrapUpTo_of_some hstep, ih inner.length hlt (by omega) rfl,
            ih inner.length hlt (show inner.length ≤ k by omega) rfl]

theorem unwrap_of_none (h : unwrapOnce? (trimBlanks cs) = none) : unwrap cs = trimBlanks cs :=
  unwrapUpTo_of_none h _

/-- One layer, and then all others. -/
theorem unwrap_of_some (h : unwrapOnce? (trimBlanks cs) = some inner) :
    unwrap cs = unwrap inner := by
  have hlt := length_unwrapOnce?_lt h
  obtain ⟨k, hk⟩ := Nat.exists_eq_succ_of_ne_zero (show (trimBlanks cs).length ≠ 0 by omega)
  show unwrapUpTo (trimBlanks cs).length (trimBlanks cs) =
    unwrapUpTo (trimBlanks inner).length (trimBlanks inner)
  rw [hk, Nat.succ_eq_add_one, unwrapUpTo_of_some h, trimBlanks_of_unwrapOnce? h,
    unwrapUpTo_eq (by omega)]

theorem unwrap_congr (h : trimBlanks cs = trimBlanks ds) : unwrap cs = unwrap ds := by
  rw [unwrap, unwrap, h]

theorem unwrap_trimBlanks (cs : List Char) : unwrap (trimBlanks cs) = unwrap cs :=
  unwrap_congr (trimBy_idem isBlank cs)

/-- Induction along the layers that are taken away. -/
theorem unwrap_induction {motive : List Char → Prop}
    (bare : ∀ cs, unwrapOnce? (trimBlanks cs) = none → motive cs)
    (layer : ∀ cs inner, unwrapOnce? (trimBlanks cs) = some inner → motive inner → motive cs)
    (cs : List Char) : motive cs := by
  induction hlength : cs.length using Nat.strong_induction_on generalizing cs with
  | _ n ih =>
      obtain rfl := hlength
      cases hstep : unwrapOnce? (trimBlanks cs) with
      | none => exact bare cs hstep
      | some inner =>
          have hlt := length_unwrapOnce?_lt hstep
          have hle : (trimBlanks cs).length ≤ cs.length := length_trimBy_le isBlank cs
          exact layer cs inner hstep (ih inner.length (by omega) inner rfl)

end Steps

section Unwrapping

variable {core cs : List Char}

/-- **In the end no layer is left.** -/
theorem isBare_unwrap (cs : List Char) : IsBare (unwrap cs) := by
  induction cs using unwrap_induction with
  | bare cs h =>
      rw [unwrap_of_none h]
      exact ⟨trimBy_idem isBlank cs, h⟩
  | layer cs inner h ih =>
      rw [unwrap_of_some h]
      exact ih

/-- **An expression has the layers that were taken away around what is left.** -/
theorem layered_unwrap (cs : List Char) : Layered (unwrap cs) cs := by
  have htrimmed : ∀ {core cs : List Char}, Layered core (trimBlanks cs) → Layered core cs := by
    intro core cs h
    obtain ⟨before, after, hbefore, hafter, hcs⟩ := exists_trimBy isBlank cs
    rw [hcs]
    exact .blanks hbefore hafter h
  induction cs using unwrap_induction with
  | bare cs h =>
      rw [unwrap_of_none h]
      exact htrimmed .core
  | layer cs inner h ih =>
      rw [unwrap_of_some h]
      refine htrimmed ?_
      rcases unwrapOnce?_eq_some h with ⟨front, type, htext, hne, htype, rfl⟩ | ⟨body, htext, rfl⟩
      · -- The text was trimmed, so the type does not end with a blank.
        rw [htext]
        refine .cast ⟨htype, type.getLast hne, List.getLast_mem hne, ?_⟩ (htrimmed ih)
        refine @getLast?_trimBy isBlank cs _ ?_
        rw [← trimBlanks, htext, List.getLast?_append_of_ne_nil _ (by simp),
          List.getLast?_cons_cons, List.getLast?_cons_of_ne_nil hne,
          List.getLast?_eq_some_getLast hne]
      · rw [htext]
        exact .parentheses (htrimmed ih)

theorem unwrap_blanks {before after : List Char} (hbefore : ∀ c ∈ before, isBlank c = true)
    (hafter : ∀ c ∈ after, isBlank c = true) : unwrap (before ++ cs ++ after) = unwrap cs :=
  unwrap_congr (trimBy_wrapped hbefore hafter)

theorem unwrap_parentheses : unwrap ('(' :: (cs ++ [')'])) = unwrap cs := by
  have htrim : trimBlanks ('(' :: (cs ++ [')'])) = '(' :: (cs ++ [')']) := by
    refine trimBy_of_ends ?_ ?_
    · rintro c hc
      obtain rfl := Option.some.inj hc
      decide
    · intro c hc
      rw [← List.cons_append, List.getLast?_concat] at hc
      obtain rfl := Option.some.inj hc
      decide
  have hstep : unwrapOnce? (trimBlanks ('(' :: (cs ++ [')']))) = some (trimBlanks cs) := by
    rw [htrim, unwrapOnce?, ← List.cons_append,
      beforeCast?_eq_none not_isCastChar_parenthesis, List.cons_append,
      insideParentheses?_eq_some.mpr rfl]
    rfl
  rw [unwrap_of_some hstep, unwrap_trimBlanks]

theorem unwrap_cast {type : List Char} (htype : IsCastType type) :
    unwrap (cs ++ ':' :: ':' :: type) = unwrap cs := by
  obtain ⟨hchars, c, hc, hblank⟩ := htype
  obtain ⟨front, back, rfl⟩ := List.append_of_mem hc
  -- The blanks at the end of the type are gone before the cast is looked for.
  have htrim : trimBlanks (cs ++ ':' :: ':' :: (front ++ c :: back)) =
      trimLeftBy isBlank cs ++ ':' :: ':' :: (front ++ c :: trimRightBy isBlank back) := by
    rw [trimBlanks, trimBy_append_cons (by decide),
      show ':' :: (front ++ c :: back) = (':' :: front) ++ c :: back from rfl,
      trimRightBy_append_cons hblank]
    rfl
  have hrest : ∀ d ∈ front ++ c :: trimRightBy isBlank back, isCastChar d = true := by
    intro d hd
    refine hchars d ?_
    rcases List.mem_append.mp hd with hd | hd
    · exact List.mem_append_left _ hd
    · refine List.mem_append_right _ ?_
      rcases List.mem_cons.mp hd with rfl | hd
      · exact List.mem_cons_self ..
      · rw [trimRightBy, List.mem_reverse] at hd
        exact List.mem_cons_of_mem _ (List.mem_reverse.mp ((List.dropWhile_sublist _).subset hd))
  have hstep : unwrapOnce? (trimBlanks (cs ++ ':' :: ':' :: (front ++ c :: back))) =
      some (trimBlanks (trimLeftBy isBlank cs)) := by
    rw [htrim, unwrapOnce?, beforeCast?_cast (by simp) hrest]
    rfl
  rw [unwrap_of_some hstep, unwrap_trimBlanks]
  exact unwrap_congr (trimBy_trimLeftBy isBlank cs)

/-- **Layers around an expression do not change what is left.** -/
theorem unwrap_of_layered (h : Layered core cs) : unwrap cs = unwrap core := by
  induction h with
  | core => rfl
  | blanks hbefore hafter _ ih => rw [unwrap_blanks hbefore hafter, ih]
  | parentheses _ ih => rw [unwrap_parentheses, ih]
  | cast htype _ ih => rw [unwrap_cast htype, ih]

theorem IsBare.unwrap_eq (h : IsBare core) : unwrap core = core := by
  rw [unwrap_of_none (by rw [h.trimmed]; exact h.unlayered), h.trimmed]

/-- The core of an expression is what is left of it, when the core has no layers. -/
theorem layered_iff_of_bare (h : IsBare core) : Layered core cs ↔ unwrap cs = core := by
  constructor
  · intro hlayered
    rw [unwrap_of_layered hlayered, h.unwrap_eq]
  · rintro rfl
    exact layered_unwrap cs

end Unwrapping

end Schema
end TableCast
