import TableCast.Layout.Token
import TableCast.Proofs.Text.OneLine

/-!
# Reading Python code

What a module imports does not depend on how its lines start.  A text between quotes holds no code,
wherever its lines end, and neither does a comment; but where a text ends, code goes on, in the
middle of a line.  So the imports of a module are found by reading it character by character.

**Modes.**  A `Mode` says what the reader is in: code, a comment, a short text between single or
double quotes, or a long one between three of them.  `codeFrom` is what is read as code; of a text
it keeps the quote that starts it.  A text with code inside of it is not told apart: none of the
templates writes one.

**Statements.**  Statements start at the start of a line, behind a semicolon, and behind the colon of
a head.  An import starts with one of the keywords `from` and `import`, and no other statement does;
so `importsOf` cuts the code at all ends of lines, semicolons and colons, and keeps the pieces that
start with one of them.  That cuts too often, inside of brackets for one, but it misses no import.

**Results.**
* `codeFrom_append`: the code of a text from those of its parts.
* `read_quoted`: a quoted text is read as one.
* `codeFrom_long`, `after_long`: a text between three quotes that nothing in it closes.
* `startsImport_of_inert`, `startsImport_of_word`: statements that are no imports.
-/

namespace TableCast
namespace Emit
namespace Python

open Text Name
open Layout (isGap)

/-- What a reader of a module is in. -/
inductive Mode where
  | code
  | comment
  /-- Behind the quote that starts a text. -/
  | opened (quote : Char)
  /-- Behind two quotes: an empty text, or the start of a long one. -/
  | emptied (quote : Char)
  | short (quote : Char)
  /-- Behind a backslash in a short text. -/
  | shortEscape (quote : Char)
  /-- Behind a backslash and a carriage return, which may have a line feed behind it. -/
  | shortReturn (quote : Char)
  /-- In a long text, behind so many quotes. -/
  | long (quote : Char) (quotes : Nat)
  /-- Behind a backslash in a long text. -/
  | longEscape (quote : Char)
deriving DecidableEq

def isQuote (c : Char) : Bool := c == '"' || c == '\''

/-- A character of code: the mode behind it, and what is read as code. -/
def readCode (c : Char) : Mode × List Char :=
  if isQuote c then (.opened c, [c])
  else if c == '#' then (.comment, [])
  else (.code, [c])

/-- A character of a short text.  No line ends in one, unless a backslash stands before the end. -/
def readShort (quote c : Char) : Mode × List Char :=
  if c == quote then (.code, [])
  else if c == '\\' then (.shortEscape quote, [])
  else if isBreak c then (.code, [c])
  else (.short quote, [])

/-- One character. -/
def read : Mode → Char → Mode × List Char
  | .code, c => readCode c
  | .comment, c => if isBreak c then (.code, [c]) else (.comment, [])
  | .opened quote, c => if c == quote then (.emptied quote, []) else readShort quote c
  | .emptied quote, c => if c == quote then (.long quote 0, []) else readCode c
  | .short quote, c => readShort quote c
  | .shortEscape quote, c => if c == '\r' then (.shortReturn quote, []) else (.short quote, [])
  | .shortReturn quote, c => if c == '\n' then (.short quote, []) else readShort quote c
  | .long quote quotes, c =>
    if c == quote then if quotes == 2 then (.code, []) else (.long quote (quotes + 1), [])
    else if c == '\\' then (.longEscape quote, [])
    else (.long quote 0, [])
  | .longEscape quote, _ => (.long quote 0, [])

/-- The mode behind a text. -/
def after (m : Mode) : List Char → Mode
  | [] => m
  | c :: cs => match read m c with
    | (m, _) => after m cs

/-- What is read as code. -/
def codeFrom (m : Mode) : List Char → List Char
  | [] => []
  | c :: cs => match read m c with
    | (m, code) => code ++ codeFrom m cs

/-- The characters that a statement can start behind. -/
def isDivider (c : Char) : Bool := isBreak c || c == ';' || c == ':'

/-- The statement at the start of code. -/
def statement (code : List Char) : List Char :=
  (code.takeWhile fun c => !isDivider c).dropWhile isGap

/-- The statements behind the dividers of code. -/
def laterStatements : List Char → List (List Char)
  | [] => []
  | c :: code =>
    if isDivider c then statement code :: laterStatements code else laterStatements code

def statements (code : List Char) : List (List Char) := statement code :: laterStatements code

/-- The keywords that imports start with. -/
def importKeywords : List (List Char) := ["from".toList, "import".toList]

/-- What comes behind such a keyword: a name, the dots of a relative module, or the next line. -/
def goesOn : List Char → Bool
  | [] => false
  | c :: _ => isTame c || c == '.' || c == '\\'

/-- Whether a statement starts with one of the keywords and goes on as an import does. -/
def startsImport (cs : List Char) : Bool :=
  importKeywords.contains (cs.takeWhile isTame) && goesOn ((cs.dropWhile isTame).dropWhile isGap)

/-- The imports of a module. -/
def importsOf (text : String) : List String :=
  ((statements (codeFrom .code text.toList)).filter startsImport).map String.ofList

section Reading

variable {m : Mode} {c : Char} {xs ys : List Char}

theorem after_cons (m : Mode) (c : Char) (xs : List Char) :
    after m (c :: xs) = after (read m c).1 xs := rfl

theorem codeFrom_cons (m : Mode) (c : Char) (xs : List Char) :
    codeFrom m (c :: xs) = (read m c).2 ++ codeFrom (read m c).1 xs := rfl

theorem after_append (m : Mode) (xs ys : List Char) :
    after m (xs ++ ys) = after (after m xs) ys := by
  induction xs generalizing m with
  | nil => rfl
  | cons c xs ih => rw [List.cons_append, after_cons, after_cons, ih]

theorem codeFrom_append (m : Mode) (xs ys : List Char) :
    codeFrom m (xs ++ ys) = codeFrom m xs ++ codeFrom (after m xs) ys := by
  induction xs generalizing m with
  | nil => rfl
  | cons c xs ih =>
      rw [List.cons_append, codeFrom_cons, codeFrom_cons, after_cons, ih, List.append_assoc]

/-- A character that starts neither a text nor a comment. -/
def isOpen (c : Char) : Bool := !isQuote c && c != '#'

theorem readCode_of_open (h : isOpen c = true) : readCode c = (.code, [c]) := by
  rw [isOpen, Bool.and_eq_true, Bool.not_eq_true', bne_iff_ne] at h
  rw [readCode, h.1, if_neg Bool.false_ne_true, if_neg (by simpa using h.2)]

theorem after_of_open (h : ∀ c ∈ xs, isOpen c = true) : after .code xs = .code := by
  induction xs with
  | nil => rfl
  | cons c xs ih =>
      obtain ⟨hc, hxs⟩ := List.forall_mem_cons.mp h
      have hread : (read .code c).1 = .code := by rw [read, readCode_of_open hc]
      rw [after_cons, hread]
      exact ih hxs

theorem codeFrom_of_open (h : ∀ c ∈ xs, isOpen c = true) : codeFrom .code xs = xs := by
  induction xs with
  | nil => rfl
  | cons c xs ih =>
      obtain ⟨hc, hxs⟩ := List.forall_mem_cons.mp h
      rw [codeFrom_cons, read, readCode_of_open hc, ih hxs]
      rfl

/-- In code, at the end of a text perhaps. -/
def Ready (m : Mode) : Prop := m = .code ∨ ∃ quote, isQuote quote = true ∧ m = .emptied quote

theorem ready_code : Ready .code := Or.inl rfl

/-- What is no quote is read behind a text as it is read in code. -/
theorem Ready.read_eq (h : Ready m) (hc : isQuote c = false) : read m c = readCode c := by
  rcases h with rfl | ⟨quote, hquote, rfl⟩
  · rfl
  · have hne : (c == quote) = false := by
      rw [beq_eq_false_iff_ne]
      rintro rfl
      rw [hc] at hquote
      cases hquote
    rw [read, hne]
    rfl

theorem Ready.after_eq (h : Ready m) (hc : isQuote c = false) (xs : List Char) :
    after m (c :: xs) = after .code (c :: xs) := by
  rw [after_cons, h.read_eq hc, after_cons]
  rfl

theorem Ready.codeFrom_eq (h : Ready m) (hc : isQuote c = false) (xs : List Char) :
    codeFrom m (c :: xs) = codeFrom .code (c :: xs) := by
  rw [codeFrom_cons, h.read_eq hc, codeFrom_cons]
  rfl

/-- The end of the line is read as one, with code behind it. -/
def Closes (m : Mode) : Prop := read m '\n' = (.code, ['\n'])

theorem Ready.closes (h : Ready m) : Closes m := h.read_eq rfl

theorem closes_comment : Closes .comment := rfl

/-- A comment goes on to the end of its line. -/
theorem after_comment (h : Unbroken xs) : after .comment xs = .comment := by
  induction xs with
  | nil => rfl
  | cons c xs ih =>
      obtain ⟨hc, hxs⟩ := unbroken_cons.mp h
      have hread : (read .comment c).1 = .comment := by rw [read, hc, if_neg Bool.false_ne_true]
      rw [after_cons, hread]
      exact ih hxs

theorem codeFrom_comment (h : Unbroken xs) : codeFrom .comment xs = [] := by
  induction xs with
  | nil => rfl
  | cons c xs ih =>
      obtain ⟨hc, hxs⟩ := unbroken_cons.mp h
      rw [codeFrom_cons, read, hc, if_neg Bool.false_ne_true, ih hxs]
      rfl

end Reading

section ShortTexts

variable {m : Mode} {quote c : Char} {cs : List Char}

/-- In a short text. -/
def InShort (quote : Char) (m : Mode) : Prop := m = .opened quote ∨ m = .short quote

/-- A character that stands in a text as it is. -/
def isUnescaped (c : Char) : Bool := !isQuote c && c != '\\' && !isBreak c

theorem read_unescaped (hm : InShort quote m) (hquote : c ≠ quote) (hslash : c ≠ '\\')
    (hbreak : isBreak c = false) : read m c = (.short quote, []) := by
  have hshort : readShort quote c = (.short quote, []) := by
    rw [readShort, beq_eq_false_iff_ne.mpr hquote, beq_eq_false_iff_ne.mpr hslash, hbreak]
    rfl
  rcases hm with rfl | rfl
  · rw [read, beq_eq_false_iff_ne.mpr hquote]
    exact hshort
  · exact hshort

theorem read_backslash (hm : InShort quote m) (hquote : isQuote quote = true) :
    read m '\\' = (.shortEscape quote, []) := by
  have hne : ('\\' == quote) = false := by
    rw [beq_eq_false_iff_ne]
    rintro rfl
    cases hquote
  rcases hm with rfl | rfl
  · rw [read, readShort, hne]
    rfl
  · rw [read, readShort, hne]
    rfl

theorem read_escaped (hc : c ≠ '\r') : read (.shortEscape quote) c = (.short quote, []) := by
  rw [read, beq_eq_false_iff_ne.mpr hc]
  rfl

/-- A text that leaves no short text, and of which nothing is code. -/
structure StaysShort (quote : Char) (cs : List Char) : Prop where
  mode : ∀ m, InShort quote m → InShort quote (after m cs)
  code : ∀ m, InShort quote m → codeFrom m cs = []

theorem staysShort_nil : StaysShort quote [] := ⟨fun _ hm => hm, fun _ _ => rfl⟩

theorem StaysShort.append {ds : List Char} (h : StaysShort quote cs) (hds : StaysShort quote ds) :
    StaysShort quote (cs ++ ds) := by
  refine ⟨fun m hm => ?_, fun m hm => ?_⟩
  · rw [after_append]
    exact hds.mode _ (h.mode m hm)
  · rw [codeFrom_append, h.code m hm, hds.code _ (h.mode m hm)]
    rfl

theorem staysShort_flatMap {α : Type} {xs : List α} {f : α → List Char}
    (h : ∀ x ∈ xs, StaysShort quote (f x)) : StaysShort quote (xs.flatMap f) := by
  induction xs with
  | nil => exact staysShort_nil
  | cons x xs ih =>
      obtain ⟨hx, hxs⟩ := List.forall_mem_cons.mp h
      rw [List.flatMap_cons]
      exact hx.append (ih hxs)

theorem staysShort_singleton (hquote : c ≠ quote) (hslash : c ≠ '\\')
    (hbreak : isBreak c = false) : StaysShort quote [c] := by
  refine ⟨fun m hm => Or.inr ?_, fun m hm => ?_⟩
  · rw [after_cons, read_unescaped hm hquote hslash hbreak]
    rfl
  · rw [codeFrom_cons, read_unescaped hm hquote hslash hbreak]
    rfl

theorem staysShort_pair (hquote : isQuote quote = true) (hc : c ≠ '\r') :
    StaysShort quote ['\\', c] := by
  refine ⟨fun m hm => Or.inr ?_, fun m hm => ?_⟩
  · rw [after_cons, read_backslash hm hquote, after_cons, read_escaped hc]
    rfl
  · rw [codeFrom_cons, read_backslash hm hquote, codeFrom_cons, read_escaped hc]
    rfl

theorem staysShort_hexDigits (hquote : isQuote quote = true) (width n : Nat) :
    StaysShort quote (Quoted.hexDigits width n) := by
  have hdigit : ∀ n < 16, isUnescaped (Quoted.hexDigit n) = true := by decide
  induction width generalizing n with
  | zero => exact staysShort_nil
  | succ width ih =>
      have h := hdigit (n % 16) (Nat.mod_lt _ (by omega))
      rw [isUnescaped, Bool.and_eq_true, Bool.and_eq_true, Bool.not_eq_true', Bool.not_eq_true',
        bne_iff_ne] at h
      rw [Quoted.hexDigits]
      refine (ih _).append (staysShort_singleton ?_ h.1.2 h.2)
      intro heq
      rw [heq, hquote] at h
      cases h.1.1

theorem staysShort_escape (hquote : isQuote quote = true) :
    StaysShort quote (Quoted.escape quote c) := by
  have hletter : ∀ d, d ≠ '\r' → ∀ width n,
      StaysShort quote ('\\' :: d :: Quoted.hexDigits width n) := fun d hd width n =>
    (staysShort_pair hquote hd).append (staysShort_hexDigits hquote width n)
  rw [Quoted.escape]
  split_ifs with hspecial hfeed hreturn
  · refine staysShort_pair hquote ?_
    rintro rfl
    rw [Bool.or_eq_true, beq_iff_eq, beq_iff_eq] at hspecial
    rcases hspecial with rfl | heq
    · cases hquote
    · cases heq
  · exact staysShort_pair hquote (by decide)
  · exact staysShort_pair hquote (by decide)
  · exact staysShort_pair hquote (by decide)
  · rw [Bool.or_eq_true, not_or, beq_iff_eq, beq_iff_eq] at hspecial
    refine staysShort_singleton hspecial.1 hspecial.2 ?_
    rw [isBreak, Bool.or_eq_false_iff]
    exact ⟨Bool.eq_false_iff.mpr hfeed, Bool.eq_false_iff.mpr hreturn⟩
  · exact hletter 'x' (by decide) _ _
  · exact hletter 'u' (by decide) _ _
  · exact hletter 'U' (by decide) _ _

theorem quoteFor_cases (cs : List Char) :
    Quoted.quoteFor cs = '"' ∨ Quoted.quoteFor cs = '\'' := by
  rw [Quoted.quoteFor]
  split_ifs
  · exact Or.inl rfl
  · exact Or.inr rfl

theorem isQuote_quoteFor (cs : List Char) : isQuote (Quoted.quoteFor cs) = true := by
  rcases quoteFor_cases cs with h | h
  · rw [h]
    rfl
  · rw [h]
    rfl

/-- Whatever a quoted text holds, it is read as one, with code behind it. -/
theorem read_quoted (s : String) : Ready (after .code (Quoted.text s).toList) ∧
    codeFrom .code (Quoted.text s).toList = [Quoted.quoteFor s.toList] := by
  have hquote := isQuote_quoteFor s.toList
  have hbody : StaysShort (Quoted.quoteFor s.toList)
      (s.toList.flatMap (Quoted.escape (Quoted.quoteFor s.toList))) :=
    staysShort_flatMap fun c _ => staysShort_escape hquote
  have hopen : read .code (Quoted.quoteFor s.toList) =
      (.opened (Quoted.quoteFor s.toList), [Quoted.quoteFor s.toList]) := by
    rw [read, readCode, hquote]
    rfl
  have hclose : ∀ m, InShort (Quoted.quoteFor s.toList) m →
      Ready (read m (Quoted.quoteFor s.toList)).1 ∧ (read m (Quoted.quoteFor s.toList)).2 = [] := by
    rintro m (rfl | rfl)
    · rw [read, beq_self_eq_true]
      exact ⟨Or.inr ⟨_, hquote, rfl⟩, rfl⟩
    · rw [read, readShort, beq_self_eq_true]
      exact ⟨ready_code, rfl⟩
  have hend := hclose _ (hbody.mode _ (Or.inl rfl))
  rw [Quoted.text, String.toList_ofList, Quoted.chars]
  constructor
  · rw [List.cons_append, after_cons, hopen, after_append, after_cons]
    exact hend.1
  · rw [List.cons_append, codeFrom_cons, hopen, codeFrom_append, hbody.code _ (Or.inl rfl),
      codeFrom_cons, hend.2]
    rfl

end ShortTexts

section LongTexts

variable {m : Mode} {c : Char} {s : String} {xs : List Char}

/-- In a text between three double quotes. -/
def Mode.isLong : Mode → Bool
  | .long quote _ => quote == '"'
  | .longEscape quote => quote == '"'
  | _ => false

/-- A text that three double quotes enclose: nothing in it closes them. -/
def Enclosed (s : String) : Prop :=
  ∀ front, front <+: s.toList → (after (.long '"' 0) front).isLong = true

/-- Of a long text nothing is read as code. -/
theorem read_long (h : m.isLong = true) (c : Char) : (read m c).2 = [] := by
  cases m with
  | long quote quotes =>
      rw [read]
      split_ifs
      · rfl
      · rfl
      · rfl
      · rfl
  | longEscape quote => rfl
  | _ => cases h

theorem codeFrom_long (h : ∀ front, front <+: xs → (after m front).isLong = true) :
    codeFrom m xs = [] := by
  induction xs generalizing m with
  | nil => rfl
  | cons c xs ih =>
      have hm : m.isLong = true := h [] List.nil_prefix
      rw [codeFrom_cons, read_long hm c, List.nil_append]
      exact ih fun front hfront => h (c :: front) (List.cons_prefix_cons.mpr ⟨rfl, hfront⟩)

/-- What is no quote leaves no long text. -/
theorem isLong_read (h : m.isLong = true) (hc : c ≠ '"') : (read m c).1.isLong = true := by
  cases m with
  | long quote quotes =>
      have hne : (c == quote) = false := by
        rw [beq_eq_false_iff_ne]
        rintro rfl
        exact hc (beq_iff_eq.mp h)
      rw [read, hne, if_neg Bool.false_ne_true]
      split_ifs
      · exact h
      · exact h
  | longEscape quote => exact h
  | _ => cases h

/-- A text without double quotes is enclosed. -/
theorem enclosed_of_not_mem (h : '"' ∉ s.toList) : Enclosed s := by
  have hlong : ∀ (front : List Char) (m : Mode), '"' ∉ front → m.isLong = true →
      (after m front).isLong = true := by
    intro front
    induction front with
    | nil => exact fun _ _ hm => hm
    | cons c front ih =>
        intro m hfront hm
        rw [List.mem_cons, not_or] at hfront
        exact ih (read m c).1 hfront.2 (isLong_read hm (Ne.symm hfront.1))
  exact fun front hfront => hlong front _ (fun hmem => h (hfront.subset hmem)) rfl

/-- Behind an enclosed text, a text that starts with neither a quote nor a backslash is read as at
the start of the long text. -/
theorem after_long (h : m.isLong = true) (hquote : c ≠ '"') (hslash : c ≠ '\\') :
    (read m c).1 = .long '"' 0 := by
  cases m with
  | long quote quotes =>
      obtain rfl : quote = '"' := beq_iff_eq.mp h
      rw [read, beq_eq_false_iff_ne.mpr hquote, beq_eq_false_iff_ne.mpr hslash]
      rfl
  | longEscape quote =>
      obtain rfl : quote = '"' := beq_iff_eq.mp h
      rfl
  | _ => cases h

end LongTexts

section Statements

variable {c : Char} {xs ys : List Char}

/-- A divider ends a statement. -/
theorem statement_append_divider (hc : isDivider c = true) :
    statement (xs ++ c :: ys) = statement xs := by
  have hkept : ((xs ++ c :: ys).takeWhile fun c => !isDivider c) =
      xs.takeWhile fun c => !isDivider c := by
    rw [List.takeWhile_append]
    split_ifs with hall
    · rw [List.takeWhile_cons, hc, if_neg (by decide), List.append_nil,
        (List.takeWhile_prefix _).eq_of_length hall]
    · rfl
  rw [statement, hkept, statement]

theorem laterStatements_append_divider (hc : isDivider c = true) :
    laterStatements (xs ++ c :: ys) = laterStatements xs ++ statements ys := by
  induction xs with
  | nil =>
      rw [List.nil_append, laterStatements, laterStatements, if_pos hc]
      rfl
  | cons x xs ih =>
      rw [List.cons_append, laterStatements, laterStatements, ih, statement_append_divider hc]
      split_ifs
      · rfl
      · rfl

/-- On both sides of a divider statements are told apart. -/
theorem statements_append_divider (hc : isDivider c = true) :
    statements (xs ++ c :: ys) = statements xs ++ statements ys := by
  rw [statements, statement_append_divider hc, laterStatements_append_divider hc]
  rfl

theorem laterStatements_of_undivided (h : ∀ c ∈ xs, isDivider c = false) :
    laterStatements (xs ++ ys) = laterStatements ys := by
  induction xs with
  | nil => rfl
  | cons x xs ih =>
      obtain ⟨hx, hxs⟩ := List.forall_mem_cons.mp h
      rw [List.cons_append, laterStatements, hx, if_neg Bool.false_ne_true, ih hxs]

theorem laterStatements_eq_nil (h : ∀ c ∈ xs, isDivider c = false) : laterStatements xs = [] := by
  have happend : laterStatements (xs ++ []) = [] := laterStatements_of_undivided h
  rwa [List.append_nil] at happend

theorem isDivider_of_isGap (h : isGap c = true) : isDivider c = false := by
  simp only [isGap, Bool.or_eq_true, beq_iff_eq, or_assoc] at h
  rcases h with rfl | rfl | rfl
  · rfl
  · rfl
  · rfl

/-- Blanks in front of a statement do not count. -/
theorem statement_cons_gap (h : isGap c = true) : statement (c :: xs) = statement xs := by
  rw [statement, List.takeWhile_cons, isDivider_of_isGap h, Bool.not_false, if_pos rfl,
    List.dropWhile_cons, if_pos h, statement]

theorem statement_append_gap (h : xs.all isGap = true) : statement (xs ++ ys) = statement ys := by
  induction xs with
  | nil => rfl
  | cons x xs ih =>
      rw [List.all_cons, Bool.and_eq_true] at h
      rw [List.cons_append, statement_cons_gap h.1, ih h.2]

theorem statements_append_gap (h : xs.all isGap = true) :
    statements (xs ++ ys) = statements ys := by
  have hundivided : ∀ c ∈ xs, isDivider c = false := fun c hc =>
    isDivider_of_isGap (List.all_eq_true.mp h c hc)
  rw [statements, statement_append_gap h, laterStatements_of_undivided hundivided]
  rfl

/-- The first word behind blanks ends, and it is no keyword of an import. -/
def inert (cs : List Char) : Bool :=
  let code := cs.dropWhile isGap
  let word := code.takeWhile isTame
  decide (word.length < code.length) && !importKeywords.contains word

theorem isTame_of_isGap (h : isGap c = true) : isTame c = false := by
  simp only [isGap, Bool.or_eq_true, beq_iff_eq, or_assoc] at h
  rcases h with rfl | rfl | rfl
  · decide
  · decide
  · decide

theorem isDivider_of_isTame (h : isTame c = true) : isDivider c = false := by
  rw [isDivider, isBreak_of_tame h, Bool.false_or, Bool.or_eq_false_iff, beq_eq_false_iff_ne,
    beq_eq_false_iff_ne]
  constructor
  · rintro rfl
    exact absurd h (by decide)
  · rintro rfl
    exact absurd h (by decide)

theorem isGap_of_isTame (h : isTame c = true) : isGap c = false := by
  rw [Bool.eq_false_iff]
  intro hgap
  rw [isTame_of_isGap hgap] at h
  cases h

/-- A word decides by what it is and by what comes behind it. -/
theorem startsImport_append (hne : xs ≠ []) (hword : ∀ c ∈ xs, isTame c = true)
    (hc : isTame c = false) : startsImport (statement (xs ++ c :: ys)) =
      (importKeywords.contains xs && goesOn (statement (c :: ys))) := by
  obtain ⟨x, xs, rfl⟩ := List.exists_cons_of_ne_nil hne
  have hkept : ∀ c ∈ x :: xs, (!isDivider c) = true := fun c hc => by
    rw [isDivider_of_isTame (hword c hc), Bool.not_false]
  have hstatement : statement (x :: xs ++ c :: ys) =
      x :: xs ++ (c :: ys).takeWhile fun c => !isDivider c := by
    rw [statement, List.takeWhile_append_of_pos hkept, List.cons_append, List.dropWhile_cons,
      isGap_of_isTame (hword x (List.mem_cons_self ..)), if_neg Bool.false_ne_true]
  have hbehind : ∀ cs, cs = ((c :: ys).takeWhile fun c => !isDivider c) →
      cs.takeWhile isTame = [] ∧ cs.dropWhile isTame = cs := by
    rintro cs rfl
    rw [List.takeWhile_cons]
    split_ifs
    · rw [List.takeWhile_cons, List.dropWhile_cons, hc, if_neg Bool.false_ne_true,
        if_neg Bool.false_ne_true]
      exact ⟨rfl, rfl⟩
    · exact ⟨rfl, rfl⟩
  rw [startsImport, hstatement, List.takeWhile_append_of_pos hword,
    List.dropWhile_append_of_pos hword, (hbehind _ rfl).1, (hbehind _ rfl).2, List.append_nil]
  rfl

/-- A statement that starts with a sign is no import. -/
theorem startsImport_of_sign (hgap : isGap c = false) (hc : isTame c = false) :
    startsImport (statement (c :: ys)) = false := by
  rw [statement, List.takeWhile_cons]
  split_ifs
  · rw [List.dropWhile_cons, hgap, if_neg Bool.false_ne_true, startsImport, List.takeWhile_cons, hc,
      if_neg Bool.false_ne_true]
    rfl
  · rfl

/-- The start of a text decides. -/
theorem startsImport_of_inert (h : inert xs = true) (ys : List Char) :
    startsImport (statement (xs ++ ys)) = false := by
  induction xs with
  | nil => cases h
  | cons x xs ih =>
      by_cases hgap : isGap x = true
      · rw [inert, List.dropWhile_cons, if_pos hgap] at h
        rw [List.cons_append, statement_cons_gap hgap]
        exact ih h
      by_cases hx : isTame x = true
      · rw [inert, List.dropWhile_cons, if_neg hgap, Bool.and_eq_true, decide_eq_true_iff,
          Bool.not_eq_true'] at h
        have hsplit := List.takeWhile_append_dropWhile (p := isTame) (l := x :: xs)
        -- The word ends, so there is a sign behind it.
        cases hrest : (x :: xs).dropWhile isTame with
        | nil =>
            rw [hrest, List.append_nil] at hsplit
            rw [hsplit] at h
            exact absurd h.1 (Nat.lt_irrefl _)
        | cons c more =>
            have hc : isTame c = false := by
              have hhead := List.head?_dropWhile_not isTame (x :: xs)
              rwa [hrest] at hhead
            have hne : (x :: xs).takeWhile isTame ≠ [] := by
              rw [List.takeWhile_cons, if_pos hx]
              exact List.cons_ne_nil _ _
            rw [← hsplit, hrest, List.append_assoc, List.cons_append,
              startsImport_append hne (fun c hc => List.mem_takeWhile_imp hc) hc, h.2,
              Bool.false_and]
      · exact startsImport_of_sign (Bool.eq_false_iff.mpr hgap) (Bool.eq_false_iff.mpr hx)

/-- What a word can have behind it that is no keyword of an import. -/
def stops (cs : List Char) : Bool :=
  match cs.dropWhile isGap with
  | [] => false
  | c :: more => !goesOn (c :: more)

theorem stops_append (h : stops xs = true) (ys : List Char) : stops (xs ++ ys) = true := by
  rw [stops] at h ⊢
  rw [List.dropWhile_append]
  cases hrest : xs.dropWhile isGap with
  | nil =>
      rw [hrest] at h
      cases h
  | cons c more =>
      rw [hrest] at h
      exact h

theorem goesOn_of_stops (h : stops xs = true) : goesOn (statement xs) = false := by
  induction xs with
  | nil => cases h
  | cons x xs ih =>
      rw [stops, List.dropWhile_cons] at h
      by_cases hgap : isGap x = true
      · rw [statement_cons_gap hgap]
        rw [if_pos hgap] at h
        exact ih h
      · rw [if_neg hgap, Bool.not_eq_true'] at h
        rw [statement, List.takeWhile_cons]
        split_ifs
        · rw [List.dropWhile_cons, if_neg hgap]
          exact h
        · rfl

/-- What stops a word does not go on with it. -/
theorem exists_cons_of_stops (h : stops xs = true) : ∃ x more, xs = x :: more ∧ isTame x = false := by
  cases xs with
  | nil => cases h
  | cons x xs =>
      refine ⟨x, xs, rfl, ?_⟩
      by_cases hgap : isGap x = true
      · exact isTame_of_isGap hgap
      · rw [stops, List.dropWhile_cons, if_neg hgap, Bool.not_eq_true', goesOn,
          Bool.or_eq_false_iff, Bool.or_eq_false_iff] at h
        exact h.1.1

/-- A word is no keyword of an import when nothing comes behind it that an import goes on with. -/
theorem startsImport_of_word (hword : ∀ c ∈ xs, isTame c = true) (hstop : stops ys = true) :
    startsImport (statement (xs ++ ys)) = false := by
  have hgoes := goesOn_of_stops hstop
  cases xs with
  | nil =>
      rw [List.nil_append]
      cases hstatement : statement ys with
      | nil => rfl
      | cons c more =>
          rw [hstatement, goesOn, Bool.or_eq_false_iff, Bool.or_eq_false_iff] at hgoes
          rw [startsImport, List.takeWhile_cons, hgoes.1.1, if_neg Bool.false_ne_true]
          rfl
  | cons x xs =>
      obtain ⟨y, more, rfl, hy⟩ := exists_cons_of_stops hstop
      rw [startsImport_append (List.cons_ne_nil _ _) hword hy, hgoes, Bool.and_false]

end Statements

end Python
end Emit
end TableCast
