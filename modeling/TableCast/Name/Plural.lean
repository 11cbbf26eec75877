import TableCast.Fault
import TableCast.Name.Plural.WordList
import TableCast.Text.LetterCase
import TableCast.Text.Pieces

/-!
# English number

Putting words into number is the work of an inflector, which is no part of the program: whatever
makes names or texts takes one as a parameter.  The one that it runs with goes by lists of irregular
words and by the endings of the regular ones.  A word that starts with a capital is taken for a
proper noun, so it keeps a final y.

- `Plural.Inflector`: what the program asks of an inflector.
- `Plural.english`: the inflector that it runs with.
- `Plural.pluralOrEmpty`: the plural of a word in a text.
- `Plural.singularizeLast`: a name whose last word is made singular.
-/

namespace TableCast
namespace Name
namespace Plural

open Text

/-- Why a text has no number. -/
inductive NumberError where
  | emptyText
  /-- A part of the text that has to be inflected is empty. -/
  | emptyPart
  /-- A part of the text that has to be inflected is blank. -/
  | blankPart
  /-- The word at a position of a phrase has no singular. -/
  | noSingular (position : Nat)
deriving Repr, DecidableEq, Inhabited

/-- The problem that a text without number is reported as. -/
def NumberError.problem : NumberError → Problem
  | .emptyText => .badWord "argument \"text\" (str) is not an instance of inflect.Word"
  | .emptyPart => .badWord "argument \"word\" (str) is not an instance of inflect.Word"
  | .blankPart => .badPosition "list index out of range"
  | .noSingular position =>
    .badType ("sequence item " ++ toString position ++ ": expected str instance, bool found")

/-- An inflector. -/
structure Inflector where
  /-- The plural of a word or short phrase. -/
  plural : String → Except NumberError String
  /-- The singular of a plural noun, none for a word that is singular. -/
  singular? : String → Except NumberError (Option String)
deriving Inhabited

/-- A word or phrase with the views of it that the rules look at. -/
structure Phrase where
  chars : List Char
  lowered : String
  /-- The words between blanks. -/
  parts : List String
  first : String
  last : String

/-- The views of a text, when it has a word. -/
def Phrase.ofChars (cs : List Char) : Except NumberError Phrase :=
  match (blankWords cs).map String.ofList with
  | [] => .error (if cs.isEmpty then .emptyPart else .blankPart)
  | w :: ws => .ok {
      chars := cs
      lowered := lower (String.ofList cs)
      parts := w :: ws
      first := w
      last := (w :: ws).getLastD w }

/-- The text of a phrase. -/
def Phrase.text (p : Phrase) : String := String.ofList p.chars

/-- The last word in lower case. -/
def Phrase.lastLowered (p : Phrase) : String := lower p.last

/-- Whether the phrase ends with one of the endings, in lower case. -/
def Phrase.endsIn (p : Phrase) (endings : List String) : Bool :=
  endings.any (endsWith p.lowered ·)

/-- The text without its last `n` characters, followed by an ending. -/
def Phrase.swap (p : Phrase) (n : Nat) (ending : String) : String :=
  String.ofList (p.chars.take (p.chars.length - n)) ++ ending

/-- Whether the last word starts with a character that is its own upper case form. -/
def Phrase.isProper (p : Phrase) : Bool :=
  match p.last.toList with
  | [] => false
  | c :: _ => upperChar c == [c]

/-- The part of the lowered text between two distances from its end. -/
def Phrase.tailSlice (p : Phrase) (start stop : Nat) : String :=
  let cs := p.lowered.toList
  let n := cs.length
  String.ofList ((cs.take (n - stop)).drop (n - start))

/-- A look-up in a list of pairs. -/
def look (table : List (String × String)) (key : String) : Option String :=
  (table.find? (·.1 == key)).map (·.2)

/-- The blanks and the rest of a text. -/
def spanBlanks (cs : List Char) : List Char × List Char :=
  (cs.takeWhile isBlank, cs.dropWhile isBlank)

/-- The text after one hyphen or some blanks, with the separator. -/
def afterSeparator? (cs : List Char) : Option (List Char × List Char) :=
  match cs with
  | '-' :: rest => some (['-'], rest)
  | _ => match spanBlanks cs with
    | ([], _) => none
    | found => some found

/-- The text after a word of lower case letters, whatever its letter case. -/
def afterWord? (word : List Char) (cs : List Char) : Option (List Char) :=
  match word, cs with
  | [], rest => some rest
  | w :: ws, c :: rest => if equalIgnoringCase w c then afterWord? ws rest else none
  | _ :: _, [] => none

/-- Whether a text goes on with a separator and the given word. -/
def goesOnWith (word : String) (cs : List Char) : Bool :=
  match afterSeparator? cs with
  | none => false
  | some (_, rest) => (afterWord? word.toList rest).isSome

/-- Whether a text starts with a word, whatever its letter case. -/
def startsIgnoringCase (word : String) (cs : List Char) : Bool :=
  (afterWord? word.toList cs).isSome

/-- Whether a word occurs in a text, whatever its letter case. -/
def occursIgnoringCase (word : String) : List Char → Bool
  | [] => word.isEmpty
  | c :: cs => startsIgnoringCase word (c :: cs) || occursIgnoringCase word cs

/-- The cut before an adjective that follows its noun, such as "general" or "martial". -/
def postfixAdjectiveCut? (cs : List Char) : Option Nat :=
  let ranked := ["major", "lieutenant", "brigadier", "adjutant"].any (startsIgnoringCase · cs)
  let head := cs.takeWhile (fun c => !isBlank c)
  let cuts := (List.range head.length).map (fun i => head.length - i)
  let general :=
    if ranked || occursIgnoringCase "star" cs then none
    else cuts.find? (fun n => goesOnWith "general" (cs.drop n))
  match general with
  | some n => some n
  | none =>
    if startsIgnoringCase "court" cs && goesOnWith "martial" (cs.drop 5) then some 5
    else if startsIgnoringCase "pound" cs && goesOnWith "force" (cs.drop 5) then some 5
    else none

/-- The parts of a phrase such as "aide to a king": the noun, the preposition with its
separators, and the rest after the article. -/
def dualCompound? (before : List Char) : List Char → Option (List Char × List Char × List Char)
  | [] => none
  | c :: cs =>
    let here := do
      let (sep, rest) ← afterSeparator? (c :: cs)
      prepositions.findSome? fun prep => do
        let afterPrep ← afterWord? prep.toList rest
        let (link, article) ← afterSeparator? afterPrep
        let afterArticle ← afterWord? ['a'] article
        let (_, noun) ← afterSeparator? afterArticle
        some (before.reverse, sep ++ rest.take prep.length ++ link, noun)
    match here with
    | some found => some found
    | none => dualCompound? (c :: before) cs

/-- The length of the longest text in front of " per " or " a ". -/
def denominatorCut? (cs : List Char) : Option Nat :=
  let cuts := (List.range cs.length).map (fun i => cs.length - i)
  cuts.find? fun n =>
    let rest := cs.drop n
    (" per ".toList.isPrefixOf rest && rest.length > 5) ||
      (" a ".toList.isPrefixOf rest && rest.length > 3)

/-- The position of the first inner part that is a preposition. -/
def pivot? (parts : List String) : Option Nat :=
  (List.range parts.length).find? fun i =>
    1 ≤ i && i + 1 < parts.length && prepositions.contains (parts.getD i "")

/-- A phrase cut at a separator, with the word in front of its preposition inflected. -/
def prepositionalPhrase? (inflect : String → Except NumberError String) (phrase : String)
    (sep : Char) : Except NumberError (Option String) :=
  let parts := splitOn phrase sep
  if parts.length < 3 then .ok none
  else match pivot? parts with
  | none => .ok none
  | some i => do
    let sepText := String.singleton sep
    let inflected ← inflect (parts.getD (i - 1) "")
    let joined := inflected ++ sepText ++ parts.getD i "" ++ sepText
    return some (joinWith " " (parts.take (i - 1) ++ [joined]) ++ joinWith " " (parts.drop (i + 1)))

/-- A phrase of at least three words with the word in front of its first preposition
inflected; the inflection is told the position of the word. -/
def longCompound? (inflect : Nat → String → Except NumberError String) (parts : List String) :
    Except NumberError (Option String) :=
  let found := (List.range parts.length).find? fun i =>
    i + 1 < parts.length && prepositions.contains (parts.getD (i + 1) "")
  if parts.length < 3 then .ok none
  else match found with
  | none => .ok none
  | some i => do
    let image ← inflect i (parts.getD i "")
    return some (joinWith " " (parts.take i ++ [image] ++ parts.drop (i + 1)))

/-- A preposition followed by a pronoun, with the pronoun looked up in a table. -/
def pronounPhrase? (table : List (String × String)) (p : Phrase) : Option String :=
  match (blankWords p.lowered.toList).map String.ofList with
  | [prep, pronoun] =>
    if prepositions.contains prep && startsWith p.lowered prep && endsWith p.lowered pronoun then
      (look table pronoun).map fun image =>
        String.ofList (p.lowered.toList.take (p.lowered.length - pronoun.length)) ++ image
    else none
  | _ => none

/-- The last two pieces of a phrase between hyphens. -/
def hyphenTail (p : Phrase) : String :=
  let pieces := splitOn p.lowered '-'
  joinWith " " (pieces.drop (pieces.length - 2))

/-- The vowels. -/
def isVowel (c : Char) : Bool := "aeiou".toList.contains c

/-- The first rule whose endings fit, with the ending swapped. -/
def swapByEnding? (p : Phrase) : List (List String × Nat × String) → Option String
  | [] => none
  | (endings, n, image) :: rules =>
    if p.endsIn endings then some (p.swap n image) else swapByEnding? p rules

/-- The regular plural of a noun, by its ending. -/
def regularPlural (p : Phrase) : String :=
  let low := p.lowered
  let s := p.swap 0 "s"
  let es := p.swap 0 "es"
  if endsWith low "quy" then p.swap 1 "ies"
  else if endsWith low "person" then p.swap 4 "ople"
  else if endsWith low "man" then
    if p.endsIn manMans || manMansNames.any (endsWith p.text ·) then s else p.swap 3 "men"
  else if endsWith low "mouse" then p.swap 5 "mice"
  else if endsWith low "louse" then
    if louseLice.contains low then p.swap 5 "lice" else s
  else if endsWith low "goose" then p.swap 5 "geese"
  else if endsWith low "tooth" then p.swap 5 "teeth"
  else if endsWith low "foot" then p.swap 4 "feet"
  else if endsWith low "taco" then p.swap 5 "tacos"
  else if low == "die" then "dice"
  else if endsWith low "ceps" then p.text
  else if endsWith low "zoon" then p.swap 2 "a"
  else if p.endsIn ["cis", "sis", "xis"] then p.swap 2 "es"
  else match swapByEnding? p [(chChs, 0, "s"), (exIces, 2, "ices"), (ixIces, 2, "ices"),
      (umA, 2, "a"), (usI, 2, "i"), (onA, 2, "a"), (aAe, 0, "e")] with
  | some image => image
  | none =>
    if singularS.contains p.lastLowered || p.endsIn singularSEndings then es
    else if endsWith low "es" && p.isProper then es
    else if endsWith low "z" && (p.endsIn zZes || p.tailSlice 2 1 != "z") then
      if p.endsIn zZes then es else p.swap 0 "zes"
    else if endsWith low "ze" && p.endsIn zeZes then s
    else if p.endsIn ["ch", "sh", "zz", "ss", "x"] then es
    else if p.endsIn ["elf", "alf", "olf"] then p.swap 1 "ves"
    else if endsWith low "eaf" && p.tailSlice 4 3 != "d" then p.swap 1 "ves"
    else if p.endsIn ["nife", "life", "wife"] then p.swap 2 "ves"
    else if endsWith low "arf" then p.swap 1 "ves"
    else if endsWith low "y" then
      if (p.tailSlice 2 1).toList.all isVowel || p.chars.length == 1 then s
      else if p.isProper then s
      else p.swap 1 "ies"
    else if oOsWords.contains p.lastLowered || p.endsIn oOs then s
    else if p.endsIn ["ao", "eo", "io", "oo", "uo"] then s
    else if endsWith low "o" then es
    else s

/-- The plural of an irregular word at the end of a phrase, its forms separated by bars. -/
def irregularPlural? (p : Phrase) : Option String :=
  match look irregularNames p.last with
  | some image => some (p.swap p.last.length image)
  | none => match look irregular p.lastLowered with
    | some image => some (p.swap p.lastLowered.length image)
    | none => (look irregularCompounds (hyphenTail p)).map (p.swap (hyphenTail p).length)

/-- The plural of a noun or noun phrase, alternative forms separated by bars.  The first
argument bounds the nesting of phrases. -/
def pluralNoun : Nat → List Char → Except NumberError String
  | 0, cs => .ok (String.ofList cs)
  | fuel + 1, cs => do
    let p ← Phrase.ofChars cs
    let inflect (s : String) := pluralNoun fuel s.toList
    let low := p.lowered
    if uninflected.contains p.lastLowered then
      let long ← longCompound? (fun _ => inflect) p.parts
      return long.getD p.text
    if uninflectedNames.contains p.text || p.endsIn uninflectedEndings then return p.text
    if let some n := postfixAdjectiveCut? cs then
      let noun ← pluralNoun fuel (cs.take n)
      return noun ++ String.ofList (cs.drop n)
    let dual := if contains low " a " || contains low "-a-" then dualCompound? [] cs else none
    if let some (noun, link, rest) := dual then
      if !rest.isEmpty then
        let noun ← pluralNoun fuel noun
        let rest ← pluralNoun fuel rest
        return noun ++ String.ofList link ++ rest
    if let some image := ← longCompound? (fun _ => inflect) p.parts then return image
    if let some n := denominatorCut? low.toList then
      let unit ← pluralNoun fuel (cs.take n)
      return unit ++ String.ofList (cs.drop n)
    if p.parts.length ≥ 2 && p.parts.getD (p.parts.length - 2) "" == "degree" then
      let first ← inflect p.first
      return joinWith " " (first :: p.parts.drop 1)
    if let some image := ← prepositionalPhrase? inflect low '-' then return image
    let rules : List (Option String) := [
      pronounPhrase? objectPronouns p, look pronouns low, look objectPronouns low,
      irregularPlural? p]
    return (rules.findSome? id).getD (regularPlural p)

/-- What follows the first hyphen of an alternative form: it belongs to the whole word. -/
def afterAlternative (s : String) : String :=
  String.ofList (s.toList.dropWhile (· != '-'))

/-- A word with the first of each two forms that a bar separates. -/
def firstForm (s : String) : String :=
  match splitOn s '|' with
  | [] => s
  | first :: others => first ++ String.join (others.map afterAlternative)

/-- The words of an inflected text, of alternative forms the first. -/
def inflectedWords (s : String) : List String :=
  match splitOn s '|' with
  | a :: b :: _ =>
    if (splitOn a ' ').length == (splitOn b ' ').length then splitOn (firstForm s) ' '
    else (splitOn s ' ').map firstForm
  | _ => splitOn s ' '

/-- An inflected word in the letter case of the word it comes from. -/
def matchCase (original inflected : String) : String :=
  if original == "I" then inflected
  else
    let cs := original.toList
    let image := if titleChars cs == cs then String.ofList (titleChars inflected.toList)
      else inflected
    if upperChars cs == cs then upper image else image

/-- Inflected words in the letter case of the words at their place. -/
def matchCases : List String → List String → List String
  | word :: words, image :: images => matchCase word image :: matchCases words images
  | _, images => images

/-- An inflected text in the letter case of the original. -/
def inCaseOf (original inflected : String) : String :=
  joinWith " " (matchCases (splitOn original ' ') (inflectedWords inflected))

/-- A text cut into leading blanks, one line of text and trailing blanks.  Of blanks alone
the last that is no line break stands for the line of text. -/
def partition? (cs : List Char) : Option (List Char × List Char × List Char) :=
  let (before, rest) := spanBlanks cs
  let core := trimRightBy isBlank rest
  if core.isEmpty then
    let breaks := cs.reverse.takeWhile (· == '\n')
    match cs.reverse.drop breaks.length with
    | [] => none
    | c :: front => some (front.reverse, [c], breaks)
  else if core.contains '\n' then none
  else some (before, core, rest.drop core.length)

/-- The plural of a noun between blanks, in the letter case of the noun. -/
def pluralOfNoun (cs : List Char) : Except NumberError String :=
  if cs.isEmpty then .error .emptyText
  else match partition? cs with
  | none => .ok (String.ofList cs)
  | some (before, core, after) => do
    let image ← pluralNoun (core.length + 1) core
    return String.ofList before ++ inCaseOf (String.ofList core) image ++ String.ofList after

/-- The owner in a possessive form such as "user's" or "users'". -/
def owner? (cs : List Char) : Option (List Char) :=
  let owner := match cs.reverse with
    | 's' :: '\'' :: rest => rest.reverse
    | '\'' :: rest => rest.reverse
    | _ => []
  if owner.isEmpty then none else some owner

/-- The plural of a word read as an article, a pointing word or a possessive. -/
def pluralAdjective? (cs : List Char) : Except NumberError (Option String) :=
  let low := lower (String.ofList cs)
  match look (determiners ++ possessives) low with
  | some image => .ok (some image)
  | none => match owner? cs with
    | none => .ok none
    | some owner => do
      let image ← pluralOfNoun owner
      return some (if endsWith image "s" then image ++ "'" else image ++ "'s")

/-- Whether a word in s is no verb: a singular or uninflected noun, or a name. -/
def isNounInS (p : Phrase) : Bool :=
  let t := p.text
  let capital := match p.chars with
    | [] => false
    | c :: _ => isAsciiUpper c
  singularS.contains t || singularSEndings.any (endsWith t ·) || (capital && endsWith t "s") ||
    uninflectedS.contains t || endsWith t "ois" || endsWith t "measles" ||
    ["corpus", "opus", "genus", "mythos", "penis", "testis", "atlas", "yes"].contains t ||
    ["cis", "sis", "xis"].any (endsWith t ·) || endsWith t "ceps"

/-- Whether a character is a letter s. -/
def isLetterS (c : Char) : Bool := equalIgnoringCase 's' c

/-- The plural of a word read as a verb in the third person. -/
def pluralVerb? (p : Phrase) : Option String :=
  let low := p.lowered
  let rest := String.ofList (p.chars.drop p.first.length)
  let negated := if endsWith p.first "n't" then
      some (String.ofList (p.first.toList.take (p.first.length - 3))) else none
  match look presentVerbs p.first with
  | some image => some (image ++ rest)
  | none =>
    if unchangingVerbs.contains p.first then some p.text
    else match negated.map (look presentVerbs) with
    | some (some image) => some (image ++ "n't" ++ rest)
    | some none => some p.text
    | none =>
      if isNounInS p || p.chars.any isBlank then none
      else if low == "quizzes" then some "quiz"
      else if p.endsIn ["ches", "shes", "zzes", "sses", "xes"] then some (p.swap 2 "")
      else if endsWith low "ies" && p.chars.length > 3 then
        some (String.ofList (low.toList.take (low.length - 3)) ++ "y")
      else if oesOeVerbs.contains p.lastLowered || p.endsIn ["hoes", "toes", "shoes"] then
        some (p.swap 1 "")
      else if endsWith low "oes" && p.chars.length > 3 then
        some (String.ofList (low.toList.take (low.length - 2)))
      else match p.chars.reverse with
        | c :: d :: _ => if isLetterS c && !isLetterS d then some (p.swap 1 "") else none
        | _ => none

/-- The plural of a word or phrase. -/
def plural (text : String) : Except NumberError String :=
  if text.isEmpty then .error .emptyText
  else match partition? text.toList with
  | none => .ok text
  | some (before, core, after) => do
    let verb? := match Phrase.ofChars core with
      | .ok p => pluralVerb? p
      | .error _ => none
    let adjective? ← pluralAdjective? core
    let image ← match adjective?.or verb? with
      | some image => pure image
      | none => pluralNoun (core.length + 1) core
    return String.ofList before ++ inCaseOf (String.ofList core) image ++ String.ofList after

/-- The pairs of plural and singular of a table, one for each form of a plural. -/
def forms (table : List (String × String)) : List (String × String) :=
  table.flatMap fun (one, many) => (splitOn many '|').map fun form => (form, one)

/-- The last pair of a list with the given key. -/
def lookLast (table : List (String × String)) (key : String) : Option String :=
  look table.reverse key

/-- The regular singular of a plural noun, by its ending. -/
def regularSingular? (p : Phrase) : Option String :=
  let low := p.lowered
  let last := p.lastLowered
  let cut (n : Nat) := some (p.swap n "")
  let swap (n : Nat) (s : String) := some (p.swap n s)
  let plurals (words : List String) (n : Nat) (ending : String) : List String :=
    words.map fun w => String.ofList (w.toList.take (w.length - n)) ++ ending
  if endsWith low "quies" then swap 3 "y"
  else if endsWith low "persons" then cut 1
  else if endsWith low "people" then swap 4 "rson"
  else if endsWith low "mans" &&
      (p.endsIn (plurals manMans 0 "s") ||
        (plurals manMansNames 0 "s").any (endsWith p.text ·)) then
    cut 1
  else if endsWith low "men" then swap 3 "man"
  else if endsWith low "mice" then swap 4 "mouse"
  else if endsWith low "lice" && (plurals louseLice 5 "lice").contains low then swap 4 "louse"
  else if endsWith low "geese" then swap 5 "goose"
  else if endsWith low "teeth" then swap 5 "tooth"
  else if endsWith low "feet" then swap 4 "foot"
  else if low == "dice" then some "die"
  else if endsWith low "ceps" then some p.text
  else if endsWith low "zoa" then swap 1 "on"
  else match swapByEnding? p [(plurals chChs 0 "s", 1, ""), (plurals exIces 2 "ices", 4, "ex"),
      (plurals ixIces 2 "ices", 4, "ix"), (plurals umA 2 "a", 1, "um"),
      (plurals usI 2 "i", 1, "us"), (plurals onA 2 "a", 1, "on"), (plurals aAe 0 "e", 1, "")] with
  | some image => some image
  | none =>
    if endsWith low "houses" || usesUseNames.contains p.text || usesUse.contains last then cut 1
    else if iesIeNames.contains p.text || iesIe.contains last then cut 1
    else if endsWith low "shoes" || oesOeNames.contains p.text || oesOe.contains last then cut 1
    else if ssesSseNames.contains p.text || ssesSse.contains last then cut 1
    else if (plurals singularS 0 "es").contains last ||
        p.endsIn (plurals singularSEndings 0 "es") then
      cut 2
    else if endsWith low "eses" && p.isProper then cut 2
    else if (plurals zZes 0 "es").contains last || zzesZz.contains last then cut 2
    else if endsWith low "zzes" then cut 3
    else if chesCheNames.contains p.text || chesChe.contains last then cut 1
    else if p.endsIn ["ches", "shes"] then cut 2
    else if xesXe.contains last then cut 1
    else if endsWith low "xes" then cut 2
    else if vesVeNames.contains p.text || vesVe.contains last then cut 1
    else if endsWith low "ves" && ["el", "al", "ol", "ar"].contains (p.tailSlice 5 3) then
      swap 3 "f"
    else if endsWith low "ves" && p.tailSlice 5 3 == "ea" &&
        (p.chars.reverse.drop 5).head? != some 'd' then swap 3 "f"
    else if endsWith low "ves" && ["ni", "li", "wi"].contains (p.tailSlice 5 3) then swap 3 "fe"
    else if endsWith low "ys" && low.length > 2 && (p.tailSlice 3 2).toList.all isVowel then cut 1
    else if endsWith low "ys" && p.isProper then cut 1
    else if endsWith low "ies" then swap 3 "y"
    else if endsWith low "os" && ((plurals oOsWords 0 "s").contains last ||
        p.endsIn (plurals oOs 0 "s") || p.endsIn ["aos", "eos", "ios", "oos", "uos"]) then cut 1
    else if endsWith low "oes" then cut 2
    else if esIs.contains p.text then swap 2 "is"
    else if endsWith low "ss" then none
    else if endsWith low "s" then cut 1
    else none

/-- The singular of an irregular word at the end of a phrase. -/
def irregularSingular? (p : Phrase) : Option String :=
  match look (irregularNames.map fun (one, many) => (many, one)) p.last with
  | some image => some (p.swap p.last.length image)
  | none => match lookLast (forms irregular) p.lastLowered with
    | some image => some (p.swap p.lastLowered.length image)
    | none => (look (forms irregularCompounds) (hyphenTail p)).map (p.swap (hyphenTail p).length)

/-- The singular of a plural noun or noun phrase, none for a singular one.  The first
argument bounds the nesting of phrases. -/
def singularNoun? : Nat → List Char → Except NumberError (Option String)
  | 0, _ => .ok none
  | fuel + 1, cs => do
    if oisNames.contains (String.ofList cs) then return some (String.ofList cs.dropLast)
    let p ← Phrase.ofChars cs
    let low := p.lowered
    if uninflected.contains p.lastLowered then
      let inflect (position : Nat) (s : String) := do
        match ← singularNoun? fuel s.toList with
        | some image => pure image
        | none => .error (.noSingular position)
      let long ← longCompound? inflect p.parts
      return some (long.getD p.text)
    if uninflectedNames.contains p.text || p.endsIn uninflectedEndings then return some p.text
    if latinUs.contains p.lastLowered then return none
    if let some n := postfixAdjectiveCut? cs then
      let noun ← singularNoun? fuel (cs.take n)
      return some (noun.getD "False" ++ String.ofList (cs.drop n))
    let inflect (s : String) := do
      let image ← singularNoun? fuel s.toList
      pure ((image.filter (· != "")).getD s)
    if let some image := ← prepositionalPhrase? inflect low ' ' then return some image
    if let some image := ← prepositionalPhrase? inflect low '-' then return some image
    let rules : List (Option String) := [
      pronounPhrase? singularObjectPronouns p, look singularPronouns low,
      look singularObjectPronouns low, irregularSingular? p]
    return (rules.findSome? id).or (regularSingular? p)

/-- The singular of a plural noun, none for a singular one. -/
def singular? (text : String) : Except NumberError (Option String) :=
  if text.isEmpty then .error .emptyText
  else match partition? text.toList with
  | none => .ok (some text)
  | some (before, core, after) => do
    let image ← singularNoun? (core.length + 1) core
    return image.map fun image =>
      String.ofList before ++ inCaseOf (String.ofList core) image ++ String.ofList after

/-- The inflector that the program runs with. -/
def english : Inflector := { plural, singular? }

/-- The plural of a word, none for an empty word; a word that the inflector leaves without
text takes an s. -/
def pluralOrEmpty (word : String) (inflector : Inflector := english) : Except NumberError String :=
  if word.isEmpty then .ok ""
  else do
    let image ← inflector.plural word
    return if image.isEmpty then word ++ "s" else image

/-- The name with its last word, after the last underscore, made singular. -/
def singularizeLast (name : String) (inflector : Inflector := english) :
    Except NumberError String := do
  let words := splitOn name '_'
  let last := words.getLastD ""
  let image ← inflector.singular? last
  let kept := match image with
    | some "" => last
    | some s => s
    | none => last
  return joinWith "_" (words.dropLast ++ [kept])

end Plural
end Name
end TableCast
