import TableCast.Emit.Python.Entity
import TableCast.Proofs.Emit.CodeReader
import TableCast.Proofs.Number.NumberTexts

/-!
# The imports of a line

A generated line is put together from fixed text, names, quoted texts and numbers.  Fixed text is
read once and for all, by evaluation; a name goes on with code and starts none; a quoted text is
read as a single sign of code, whatever it holds.  So what a line imports is told from the fixed
text around its parts.

**Judgments.**  `ImportsOnly P line` says that the imports of a line are as described, and that its
end is read as one.  `Within P rest` says the same of what comes behind the start of a statement,
`Behind P rest` of what comes behind an expression, and `InText P rest` of what comes in a text
between three double quotes.  The proof of a line follows its parts from left to right.

**Results.**
* `isExpression_quoted`, `isClosed_commaTuple`: what is read as an expression.
* `importsOnly_docstring`, `importsOnly_remark`: texts and comments, which import nothing.
* `importsOnly_word`: a name in front of a line.
* `importsOf_unlines`: the imports of a text that is written line by line.
* `ImportsAre.importsOf`: and of one with texts that go on over several lines.
-/

namespace TableCast
namespace Emit
namespace Python

open Text Name
open Layout (isGap)

section Expressions

variable {s t : String} {c : Char} {cs ds : List Char}

/-- A character that goes on with a statement of code. -/
def isBare (c : Char) : Bool := isOpen c && !isDivider c

/-- A text that is code as it stands, and all of it in one statement. -/
def Bare (s : String) : Prop := ∀ c ∈ s.toList, isBare c = true

theorem bare_append : Bare (s ++ t) ↔ Bare s ∧ Bare t := by
  rw [Bare, String.toList_append]
  exact List.forall_mem_append

/-- A fixed text is looked at character by character. -/
theorem bare_text (h : cs.all isBare = true) : Bare (String.ofList cs) := by
  intro c hc
  rw [String.toList_ofList] at hc
  exact List.all_eq_true.mp h c hc

theorem bare_joinWith {sep : String} {parts : List String} (hsep : Bare sep)
    (h : ∀ s ∈ parts, Bare s) : Bare (joinWith sep parts) := by
  intro c hc
  by_cases hmem : c ∈ sep.toList
  · exact hsep c hmem
  · obtain ⟨s, hs, hc⟩ := (mem_joinWith_iff hmem).mp hc
    exact h s hs c hc

theorem isBare_of_tame (h : isTame c = true) : isBare c = true := by
  have hne : ∀ d, isTame d = false → c ≠ d := by
    rintro d hd rfl
    rw [h] at hd
    cases hd
  rw [isBare, isOpen, isQuote, isDivider_of_isTame h, beq_eq_false_iff_ne.mpr (hne '"' (by decide)),
    beq_eq_false_iff_ne.mpr (hne '\'' (by decide)), bne_iff_ne.mpr (hne '#' (by decide))]
  rfl

/-- Names go on with a statement. -/
theorem bare_of_spells (h : everyText.Spells s) : Bare s := fun c hc => isBare_of_tame (h c hc)

theorem after_of_bare (h : Bare s) : after .code s.toList = .code :=
  after_of_open fun c hc => (Bool.and_eq_true _ _ ▸ h c hc).1

theorem codeFrom_of_bare (h : Bare s) : codeFrom .code s.toList = s.toList :=
  codeFrom_of_open fun c hc => (Bool.and_eq_true _ _ ▸ h c hc).1

theorem isDivider_of_bare (h : Bare s) : ∀ c ∈ s.toList, isDivider c = false := fun c hc =>
  Bool.not_eq_true' _ ▸ (Bool.and_eq_true _ _ ▸ h c hc).2

/-- A text that is read as an expression: with code behind it, and no statement in it. -/
structure IsExpression (s : String) : Prop where
  ready : Ready (after .code s.toList)
  undivided : ∀ c ∈ codeFrom .code s.toList, isDivider c = false

/-- What is read as an expression, with code right behind it. -/
structure IsClosed (s : String) : Prop where
  mode : after .code s.toList = .code
  undivided : ∀ c ∈ codeFrom .code s.toList, isDivider c = false

theorem isClosed_of_bare (h : Bare s) : IsClosed s := by
  refine ⟨after_of_bare h, ?_⟩
  rw [codeFrom_of_bare h]
  exact isDivider_of_bare h

theorem IsClosed.isExpression (h : IsClosed s) : IsExpression s :=
  ⟨Or.inl h.mode, h.undivided⟩

theorem isExpression_of_bare (h : Bare s) : IsExpression s := (isClosed_of_bare h).isExpression

theorem isExpression_quoted (s : String) : IsExpression (Quoted.text s) := by
  obtain ⟨hready, hcode⟩ := read_quoted s
  refine ⟨hready, ?_⟩
  rw [hcode, List.forall_mem_singleton]
  rcases quoteFor_cases s.toList with h | h
  · rw [h]
    rfl
  · rw [h]
    rfl

theorem IsClosed.append (hs : IsClosed s) (ht : IsClosed t) : IsClosed (s ++ t) := by
  refine ⟨?_, ?_⟩
  · rw [String.toList_append, after_append, hs.mode, ht.mode]
  · rw [String.toList_append, codeFrom_append, hs.mode]
    exact List.forall_mem_append.mpr ⟨hs.undivided, ht.undivided⟩

theorem isClosed_join {parts : List String} (h : ∀ s ∈ parts, IsClosed s) :
    IsClosed (String.join parts) := by
  induction parts with
  | nil => exact isClosed_of_bare fun _ hc => absurd hc List.not_mem_nil
  | cons s parts ih =>
      obtain ⟨hs, hparts⟩ := List.forall_mem_cons.mp h
      rw [String.join_cons]
      exact hs.append (ih hparts)

theorem IsClosed.appendExpression (hs : IsClosed s) (ht : IsExpression t) :
    IsExpression (s ++ t) := by
  refine ⟨?_, ?_⟩
  · rw [String.toList_append, after_append, hs.mode]
    exact ht.ready
  · rw [String.toList_append, codeFrom_append, hs.mode]
    exact List.forall_mem_append.mpr ⟨hs.undivided, ht.undivided⟩

/-- Behind an expression, what starts with no quote is read as code. -/
theorem IsExpression.append (hs : IsExpression s) (hc : isQuote c = false)
    (ht : IsClosed (String.ofList (c :: cs))) : IsClosed (s ++ String.ofList (c :: cs)) := by
  obtain ⟨hmode, hcode⟩ := ht
  rw [String.toList_ofList] at hmode hcode
  refine ⟨?_, ?_⟩
  · rw [String.toList_append, String.toList_ofList, after_append, hs.ready.after_eq hc, hmode]
  · rw [String.toList_append, String.toList_ofList, codeFrom_append, hs.ready.codeFrom_eq hc]
    exact List.forall_mem_append.mpr ⟨hs.undivided, hcode⟩

/-- The expressions of a tuple, a comma behind each. -/
theorem isClosed_items {items : List String} (h : ∀ item ∈ items, IsExpression item) :
    IsClosed (String.join (items.map (· ++ ", "))) := by
  refine isClosed_join fun part hpart => ?_
  obtain ⟨item, hitem, rfl⟩ := List.mem_map.mp hpart
  exact (h item hitem).append rfl (isClosed_of_bare (bare_text rfl))

theorem isClosed_commaTuple {items : List String} (h : ∀ item ∈ items, IsExpression item) :
    IsClosed (commaTuple items) := by
  rw [commaTuple]
  exact ((isClosed_of_bare (bare_text rfl)).append (isClosed_items h)).append
    (isClosed_of_bare (bare_text rfl))

end Expressions

section Judgments

variable {P : String → Prop} {s line rest : String} {c : Char} {cs ds xs ys : List Char}
variable {m : Mode}

/-- A statement imports nothing, or as described. -/
def ImportIs (P : String → Prop) (xs : List Char) : Prop :=
  startsImport xs = true → P (String.ofList xs)

theorem importIs_of_eq_false (h : startsImport xs = false) : ImportIs P xs := by
  intro himport
  rw [h] at himport
  cases himport

/-- The imports of a line are as described, and its end is read as one. -/
structure ImportsOnly (P : String → Prop) (line : String) : Prop where
  closes : Closes (after .code line.toList)
  imports : ∀ xs ∈ statements (codeFrom .code line.toList), ImportIs P xs

/-- So are those behind the statement that a line starts with, when it is read from a mode. -/
structure GoesOnFrom (P : String → Prop) (m : Mode) (rest : String) : Prop where
  closes : Closes (after m rest.toList)
  imports : ∀ xs ∈ laterStatements (codeFrom m rest.toList), ImportIs P xs

/-- What comes behind the start of a statement. -/
def Within (P : String → Prop) (rest : String) : Prop := GoesOnFrom P .code rest

/-- What comes behind an expression. -/
def Behind (P : String → Prop) (rest : String) : Prop := ∀ m, Ready m → GoesOnFrom P m rest

theorem importsOnly_of_within
    (hfirst : startsImport (statement (codeFrom .code line.toList)) = false)
    (h : Within P line) : ImportsOnly P line :=
  ⟨h.closes, List.forall_mem_cons.mpr ⟨importIs_of_eq_false hfirst, h.imports⟩⟩

/-- Fixed text that starts with no quote is read behind an expression as it is read in code. -/
theorem behind (hc : isQuote c = false) (h : Within P (String.ofList (c :: cs) ++ rest)) :
    Behind P (String.ofList (c :: cs) ++ rest) := by
  obtain ⟨hcloses, himports⟩ := h
  rw [String.toList_append, String.toList_ofList, List.cons_append] at hcloses himports
  intro m hm
  refine ⟨?_, ?_⟩
  · rw [String.toList_append, String.toList_ofList, List.cons_append, hm.after_eq hc]
    exact hcloses
  · rw [String.toList_append, String.toList_ofList, List.cons_append, hm.codeFrom_eq hc]
    exact himports

theorem behind_text (hc : isQuote c = false) (h : Within P (String.ofList (c :: cs))) :
    Behind P (String.ofList (c :: cs)) := by
  have hall : Behind P (String.ofList (c :: cs) ++ "") :=
    behind hc (by rwa [String.append_empty])
  rwa [String.append_empty] at hall

theorem goesOnFrom_append {n : Mode} (hmode : after m s.toList = n)
    (hlater : ∀ xs ∈ laterStatements (codeFrom m s.toList ++ codeFrom n rest.toList),
      ImportIs P xs)
    (h : Closes (after n rest.toList)) : GoesOnFrom P m (s ++ rest) := by
  refine ⟨?_, ?_⟩
  · rw [String.toList_append, after_append, hmode]
    exact h
  · rw [String.toList_append, codeFrom_append, hmode]
    exact hlater

/-- What stands behind each divider passes a test. -/
def dividersPass (p : List Char → Bool) : List Char → Bool
  | [] => true
  | c :: cs => (!isDivider c || p cs) && dividersPass p cs

theorem imports_of_dividersPass {p : List Char → Bool} (h : dividersPass p xs = true)
    (hp : ∀ cs, p cs = true → ImportIs P (statement (cs ++ ys)))
    (hys : ∀ zs ∈ laterStatements ys, ImportIs P zs) :
    ∀ zs ∈ laterStatements (xs ++ ys), ImportIs P zs := by
  induction xs with
  | nil => exact hys
  | cons x xs ih =>
      rw [dividersPass, Bool.and_eq_true, Bool.or_eq_true, Bool.not_eq_true'] at h
      rw [List.cons_append, laterStatements]
      split_ifs with hdivider
      · have hpass : p xs = true := h.1.resolve_left (Bool.eq_false_iff.not.mpr (not_not.mpr hdivider))
        exact List.forall_mem_cons.mpr ⟨hp xs hpass, ih h.2⟩
      · exact ih h.2

theorem importIs_of_inert (h : inert xs = true) (ys : List Char) :
    ImportIs P (statement (xs ++ ys)) :=
  importIs_of_eq_false (startsImport_of_inert h ys)

/-- Fixed text inside of a statement, with code behind it. -/
def flows (cs : List Char) : Bool :=
  decide (after .code cs = .code) && dividersPass inert (codeFrom .code cs)

theorem within_text (hcs : flows cs = true) (h : Within P rest) :
    Within P (String.ofList cs ++ rest) := by
  rw [flows, Bool.and_eq_true, decide_eq_true_iff] at hcs
  refine goesOnFrom_append ?_ ?_ h.closes
  · rw [String.toList_ofList, hcs.1]
  · rw [String.toList_ofList]
    exact imports_of_dividersPass hcs.2 (fun _ hinert => importIs_of_inert hinert _) h.imports

/-- Fixed text at the end of a line. -/
def ends (cs : List Char) : Bool :=
  decide (read (after .code cs) '\n' = (.code, ['\n'])) &&
    !(laterStatements (codeFrom .code cs)).any startsImport

theorem within_end (hcs : ends cs = true) : Within P (String.ofList cs) := by
  rw [ends, Bool.and_eq_true, decide_eq_true_iff, Bool.not_eq_true', List.any_eq_false] at hcs
  refine ⟨?_, fun xs hxs => importIs_of_eq_false ?_⟩
  · rw [String.toList_ofList]
    exact hcs.1
  · rw [String.toList_ofList] at hxs
    exact Bool.eq_false_iff.mpr (hcs.2 xs hxs)

theorem within_closed (hs : IsClosed s) (h : Within P rest) : Within P (s ++ rest) := by
  refine goesOnFrom_append hs.mode ?_ h.closes
  rw [laterStatements_of_undivided hs.undivided]
  exact h.imports

theorem within_bare (hs : Bare s) (h : Within P rest) : Within P (s ++ rest) :=
  within_closed (isClosed_of_bare hs) h

theorem within_expression (hs : IsExpression s) (h : Behind P rest) : Within P (s ++ rest) := by
  have hrest := h _ hs.ready
  refine ⟨?_, ?_⟩
  · rw [String.toList_append, after_append]
    exact hrest.closes
  · rw [String.toList_append, codeFrom_append, laterStatements_of_undivided hs.undivided]
    exact hrest.imports

theorem within_last (hs : IsExpression s) : Within P s := by
  refine ⟨hs.ready.closes, ?_⟩
  rw [laterStatements_eq_nil hs.undivided]
  exact fun xs hxs => absurd hxs List.not_mem_nil

/-- Fixed text that a statement may stand behind: there are only blanks behind its last divider. -/
def heads (cs : List Char) : Bool :=
  decide (after .code cs = .code) &&
    dividersPass (fun cs => cs.all isGap || inert cs) (codeFrom .code cs)

theorem within_head (hcs : heads cs = true) (h : ImportsOnly P rest) :
    Within P (String.ofList cs ++ rest) := by
  rw [heads, Bool.and_eq_true, decide_eq_true_iff] at hcs
  obtain ⟨hfirst, hlater⟩ := List.forall_mem_cons.mp h.imports
  refine goesOnFrom_append ?_ ?_ h.closes
  · rw [String.toList_ofList, hcs.1]
  · rw [String.toList_ofList]
    refine imports_of_dividersPass hcs.2 (fun cs hpass => ?_) hlater
    rcases Bool.or_eq_true _ _ ▸ hpass with hgaps | hinert
    · rwa [statement_append_gap hgaps]
    · exact importIs_of_inert hinert _

end Judgments

section Starts

variable {P : String → Prop} {s line name rest : String} {c : Char} {cs ds : List Char}

/-- Fixed text that a line starts with. -/
theorem importsOnly_of_inert (hfirst : inert (codeFrom .code cs) = true)
    (h : Within P (String.ofList cs ++ rest)) : ImportsOnly P (String.ofList cs ++ rest) := by
  refine importsOnly_of_within ?_ h
  rw [String.toList_append, String.toList_ofList, codeFrom_append]
  exact startsImport_of_inert hfirst _

theorem importsOnly_text (hcs : flows cs = true) (hfirst : inert (codeFrom .code cs) = true)
    (h : Within P rest) : ImportsOnly P (String.ofList cs ++ rest) :=
  importsOnly_of_inert hfirst (within_text hcs h)

/-- And behind which a statement may stand. -/
theorem importsOnly_head (hcs : heads cs = true) (hfirst : inert (codeFrom .code cs) = true)
    (h : ImportsOnly P rest) : ImportsOnly P (String.ofList cs ++ rest) :=
  importsOnly_of_inert hfirst (within_head hcs h)

/-- A line of fixed text. -/
def silent (cs : List Char) : Bool := ends cs && !startsImport (statement (codeFrom .code cs))

theorem importsOnly_fixed (hcs : silent cs = true) : ImportsOnly P (String.ofList cs) := by
  rw [silent, Bool.and_eq_true, Bool.not_eq_true'] at hcs
  refine importsOnly_of_within ?_ (within_end hcs.1)
  rw [String.toList_ofList]
  exact hcs.2

theorem isOpen_of_isGap (h : isGap c = true) : isOpen c = true := by
  simp only [isGap, Bool.or_eq_true, beq_iff_eq, or_assoc] at h
  rcases h with rfl | rfl | rfl
  · rfl
  · rfl
  · rfl

theorem after_of_gaps (h : cs.all isGap = true) : after .code cs = .code :=
  after_of_open fun c hc => isOpen_of_isGap (List.all_eq_true.mp h c hc)

theorem codeFrom_indented (h : cs.all isGap = true) :
    codeFrom .code (String.ofList cs ++ rest).toList = cs ++ codeFrom .code rest.toList := by
  have hopen : ∀ c ∈ cs, isOpen c = true := fun c hc =>
    isOpen_of_isGap (List.all_eq_true.mp h c hc)
  rw [String.toList_append, String.toList_ofList, codeFrom_append, after_of_gaps h,
    codeFrom_of_open hopen]

/-- The indentation of a line does not count. -/
theorem importsOnly_indented (hcs : cs.all isGap = true) (h : ImportsOnly P rest) :
    ImportsOnly P (String.ofList cs ++ rest) := by
  refine ⟨?_, ?_⟩
  · rw [String.toList_append, String.toList_ofList, after_append, after_of_gaps hcs]
    exact h.closes
  · rw [codeFrom_indented hcs, statements_append_gap hcs]
    exact h.imports

/-- A name in front of a line that does not go on as an import does. -/
theorem importsOnly_word (hname : everyText.Spells name)
    (hstop : stops (codeFrom .code rest.toList) = true) (h : Within P rest) :
    ImportsOnly P (name ++ rest) := by
  refine importsOnly_of_within ?_ (within_bare (bare_of_spells hname) h)
  rw [String.toList_append, codeFrom_append, after_of_bare (bare_of_spells hname),
    codeFrom_of_bare (bare_of_spells hname)]
  exact startsImport_of_word hname hstop

/-- Fixed text tells whether a name goes on. -/
theorem stops_text (hcs : stops (codeFrom .code cs) = true) (rest : String) :
    stops (codeFrom .code (String.ofList cs ++ rest).toList) = true := by
  rw [String.toList_append, String.toList_ofList, codeFrom_append]
  exact stops_append hcs _

theorem importsOnly_quoted (s : String) (h : Behind P rest) :
    ImportsOnly P (Quoted.text s ++ rest) := by
  refine importsOnly_of_within ?_ (within_expression (isExpression_quoted s) h)
  rw [String.toList_append, codeFrom_append, (read_quoted s).2]
  refine startsImport_of_inert ?_ _
  rcases quoteFor_cases s.toList with h | h
  · rw [h]
    rfl
  · rw [h]
    rfl

theorem importsOnly_commaTuple {items : List String} (hitems : ∀ item ∈ items, IsExpression item)
    (h : Within P rest) : ImportsOnly P (commaTuple items ++ rest) := by
  rw [commaTuple, String.append_assoc, String.append_assoc]
  exact importsOnly_text rfl rfl (within_closed (isClosed_items hitems) (within_text rfl h))

/-- Fixed text with a comment behind it. -/
def isRemark (cs : List Char) : Bool :=
  decide (after .code cs = .comment) && (codeFrom .code cs).all isGap

theorem importsOnly_remark (hcs : isRemark cs = true) (h : OneLine rest) :
    ImportsOnly P (String.ofList cs ++ rest) := by
  rw [isRemark, Bool.and_eq_true, decide_eq_true_iff] at hcs
  refine ⟨?_, ?_⟩
  · rw [String.toList_append, String.toList_ofList, after_append, hcs.1, after_comment h]
    exact closes_comment
  · rw [String.toList_append, String.toList_ofList, codeFrom_append, hcs.1, codeFrom_comment h,
      statements_append_gap hcs.2]
    exact List.forall_mem_singleton.mpr (importIs_of_eq_false rfl)

/-- What comes in a text between three double quotes. -/
def InText (P : String → Prop) (rest : String) : Prop := GoesOnFrom P (.long '"' 0) rest

/-- Fixed text that goes on with a long text. -/
def staysLong (cs : List Char) : Bool :=
  decide (after (.long '"' 0) cs = .long '"' 0) && codeFrom (.long '"' 0) cs == []

theorem inText_text (hcs : staysLong cs = true) (h : InText P rest) :
    InText P (String.ofList cs ++ rest) := by
  rw [staysLong, Bool.and_eq_true, decide_eq_true_iff, beq_iff_eq] at hcs
  refine goesOnFrom_append ?_ ?_ h.closes
  · rw [String.toList_ofList, hcs.1]
  · rw [String.toList_ofList, hcs.2]
    exact h.imports

/-- Fixed text that ends a long text and the line. -/
def closesLong (cs : List Char) : Bool :=
  decide (read (after (.long '"' 0) cs) '\n' = (.code, ['\n'])) && codeFrom (.long '"' 0) cs == []

theorem inText_end (hcs : closesLong cs = true) : InText P (String.ofList cs) := by
  rw [closesLong, Bool.and_eq_true, decide_eq_true_iff, beq_iff_eq] at hcs
  refine ⟨?_, ?_⟩
  · rw [String.toList_ofList]
    exact hcs.1
  · rw [String.toList_ofList, hcs.2]
    exact fun xs hxs => absurd hxs List.not_mem_nil

/-- A text that starts with neither a quote nor a backslash. -/
def resumes : List Char → Bool
  | [] => false
  | c :: _ => c != '"' && c != '\\'

theorem resumes_text (hcs : resumes cs = true) (rest : String) :
    resumes (String.ofList cs ++ rest).toList = true := by
  rw [String.toList_append, String.toList_ofList]
  cases cs with
  | nil => cases hcs
  | cons c cs => exact hcs

/-- An enclosed text changes nothing for what comes behind it. -/
theorem inText_enclosed (hs : Enclosed s) (hresumes : resumes rest.toList = true)
    (h : InText P rest) : InText P (s ++ rest) := by
  have hlong := hs s.toList (List.prefix_refl _)
  obtain ⟨c, cs, hcs⟩ : ∃ c cs, rest.toList = c :: cs := by
    refine List.exists_cons_of_ne_nil fun hnil => ?_
    rw [hnil] at hresumes
    cases hresumes
  rw [hcs, resumes, Bool.and_eq_true, bne_iff_ne, bne_iff_ne] at hresumes
  have hmode := after_long hlong hresumes.1 hresumes.2
  have hstart : (read (.long '"' 0) c).1 = .long '"' 0 :=
    after_long rfl hresumes.1 hresumes.2
  obtain ⟨hcloses, himports⟩ := h
  rw [hcs, after_cons, hstart] at hcloses
  rw [hcs, codeFrom_cons, read_long rfl, hstart] at himports
  refine ⟨?_, ?_⟩
  · rw [String.toList_append, hcs, after_append, after_cons, hmode]
    exact hcloses
  · rw [String.toList_append, hcs, codeFrom_append, codeFrom_long hs, codeFrom_cons,
      read_long hlong, hmode]
    exact himports

/-- Fixed text that a long text starts behind. -/
def opensLong (cs : List Char) : Bool :=
  decide (after .code cs = .long '"' 0) && dividersPass inert (codeFrom .code cs)

theorem importsOnly_long (hcs : opensLong cs = true) (hfirst : inert (codeFrom .code cs) = true)
    (h : InText P rest) : ImportsOnly P (String.ofList cs ++ rest) := by
  rw [opensLong, Bool.and_eq_true, decide_eq_true_iff] at hcs
  refine importsOnly_of_inert hfirst (goesOnFrom_append ?_ ?_ h.closes)
  · rw [String.toList_ofList, hcs.1]
  · rw [String.toList_ofList]
    exact imports_of_dividersPass hcs.2 (fun _ hinert => importIs_of_inert hinert _) h.imports

/-- A text on one line, with an enclosed text in it. -/
theorem importsOnly_docstring (hfront : opensLong cs = true)
    (hfirst : inert (codeFrom .code cs) = true) (hs : Enclosed s) (hresumes : resumes ds = true)
    (hback : closesLong ds = true) : ImportsOnly P (String.ofList cs ++ (s ++ String.ofList ds)) :=
  importsOnly_long hfront hfirst (inText_enclosed hs (by rwa [String.toList_ofList]) (inText_end hback))

/-- Behind a text that closes its docstring there is code. -/
example : importsOf "\"\"\"Entity for table ``x\"\"\"; import evil; \"\"\"``.\"\"\"" = ["import evil"] := by
  decide

/-- Code without dividers is one statement. -/
theorem statements_of_bare (h : Bare s) (hfirst : s.toList.head? = some 'f') :
    statements s.toList = [s.toList] := by
  have hundivided := isDivider_of_bare h
  have hkept : (s.toList.takeWhile fun c => !isDivider c) = s.toList :=
    List.takeWhile_eq_self_iff.mpr fun c hc => by rw [hundivided c hc, Bool.not_false]
  rw [statements, laterStatements_eq_nil hundivided, statement, hkept]
  obtain ⟨cs, hcs⟩ := List.head?_eq_some_iff.mp hfirst
  rw [hcs]
  rfl

/-- An import in one statement. -/
theorem importsOnly_import (h : Bare s) (hfirst : s.toList.head? = some 'f') (hP : P s) :
    ImportsOnly P s := by
  refine ⟨?_, ?_⟩
  · rw [after_of_bare h]
    exact ready_code.closes
  · rw [codeFrom_of_bare h, statements_of_bare h hfirst, List.forall_mem_singleton]
    intro _
    rwa [String.ofList_toList]

end Starts

section Texts

variable {P : String → Prop} {s line : String} {cs ys : List Char} {lines others : List String}

/-- Lines that import as described end in code. -/
theorem after_unlines (h : ∀ line ∈ lines, ImportsOnly P line) :
    after .code (unlines lines).toList = .code := by
  induction lines with
  | nil => rfl
  | cons line lines ih =>
      obtain ⟨hline, hlines⟩ := List.forall_mem_cons.mp h
      have hend : after (after .code line.toList) "\n".toList = .code :=
        congrArg Prod.fst hline.closes
      rw [unlines_cons, String.toList_append, String.toList_append, after_append, after_append,
        hend]
      exact ih hlines

/-- Their statements are those of each of them. -/
theorem statements_unlines (h : ∀ line ∈ lines, ImportsOnly P line) :
    statements (codeFrom .code (unlines lines).toList) =
      (lines.flatMap fun line => statements (codeFrom .code line.toList)) ++ [[]] := by
  induction lines with
  | nil => rfl
  | cons line lines ih =>
      obtain ⟨hline, hlines⟩ := List.forall_mem_cons.mp h
      have hend : codeFrom (after .code line.toList) ("\n".toList ++ (unlines lines).toList) =
          '\n' :: codeFrom .code (unlines lines).toList := by
        show codeFrom (after .code line.toList) ('\n' :: (unlines lines).toList) = _
        rw [codeFrom, hline.closes]
        rfl
      rw [unlines_cons, String.toList_append, String.toList_append, List.append_assoc,
        codeFrom_append, hend, statements_append_divider rfl, ih hlines, List.flatMap_cons,
        List.append_assoc]

/-- The imports of a text that is written line by line are those of its lines. -/
theorem importsOf_unlines (h : ∀ line ∈ lines, ImportsOnly P line) :
    importsOf (unlines lines) = lines.flatMap importsOf := by
  rw [importsOf, statements_unlines h, List.filter_append, List.filter_flatMap, List.map_append,
    List.map_flatMap]
  exact List.append_nil _

theorem ImportsOnly.importsOf (h : ImportsOnly P line) : ∀ s ∈ importsOf line, P s := by
  intro s hs
  obtain ⟨xs, hxs, rfl⟩ := List.mem_map.mp hs
  obtain ⟨hstatement, himport⟩ := List.mem_filter.mp hxs
  exact h.imports xs hstatement himport

theorem importsOf_indented (hcs : cs.all isGap = true) (s : String) :
    importsOf (String.ofList cs ++ s) = importsOf s := by
  rw [importsOf, importsOf, codeFrom_indented hcs, statements_append_gap hcs]

/-- An import on a line of its own. -/
structure IsImport (s : String) : Prop where
  bare : Bare s
  first : s.toList.head? = some 'f'
  starts : startsImport s.toList = true

theorem IsImport.importsOf_eq (h : IsImport s) : importsOf s = [s] := by
  rw [importsOf, codeFrom_of_bare h.bare, statements_of_bare h.bare h.first, List.filter_cons,
    if_pos h.starts, List.map_cons, String.ofList_toList]
  rfl

/-- A line of a text that is read as code. -/
def IsCodeLine (text line : String) : Prop :=
  ∃ earlier later, text = unlines (earlier ++ line :: later) ∧
    after .code (unlines earlier).toList = .code

theorem isCodeLine_unlines (h : ∀ line ∈ lines, ImportsOnly P line) (hmem : line ∈ lines) :
    IsCodeLine (unlines lines) line := by
  obtain ⟨earlier, later, rfl⟩ := List.append_of_mem hmem
  exact ⟨earlier, later, rfl, after_unlines (List.forall_mem_append.mp h).1⟩

/-- All imports of lines are as described, when a text that goes on over several lines is looked at
as a whole. -/
def ImportsAre (P : String → Prop) (lines : List String) : Prop :=
  ∃ blocks, unlines blocks = unlines lines ∧ ∀ block ∈ blocks, ImportsOnly P block

theorem importsAre_of_forall (h : ∀ line ∈ lines, ImportsOnly P line) : ImportsAre P lines :=
  ⟨lines, rfl, h⟩

theorem ImportsAre.append (h : ImportsAre P lines) (hothers : ImportsAre P others) :
    ImportsAre P (lines ++ others) := by
  obtain ⟨blocks, hblocks, honly⟩ := h
  obtain ⟨more, hmore, hmoreOnly⟩ := hothers
  refine ⟨blocks ++ more, ?_, List.forall_mem_append.mpr ⟨honly, hmoreOnly⟩⟩
  rw [unlines_append, unlines_append, hblocks, hmore]

theorem ImportsAre.cons (h : ImportsOnly P line) (hlines : ImportsAre P lines) :
    ImportsAre P (line :: lines) :=
  (importsAre_of_forall (List.forall_mem_singleton.mpr h)).append hlines

theorem ImportsAre.importsOf (h : ImportsAre P lines) :
    ∀ s ∈ importsOf (unlines lines), P s := by
  obtain ⟨blocks, hblocks, honly⟩ := h
  rw [← hblocks, importsOf_unlines honly]
  intro s hs
  obtain ⟨block, hblock, hs⟩ := List.mem_flatMap.mp hs
  exact (honly block hblock).importsOf s hs

end Texts

end Python
end Emit
end TableCast
