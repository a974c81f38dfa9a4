import Mathlib
import Clausal.Dimacs
import Clausal.Proofs.Words

/-!
# The grammar of clause files

What a clause file says, stated without a reader. The lines up to the end mark count, without the empty
ones and the comments. The first of them is the problem line; the words of the others write numbers,
which are the numbers of one clause after another with a zero behind each clause. What the lines say
depends only on their words: those of the problem line, and those of all lines behind it in one row.
-/

namespace Clausal

namespace Text

/-- A digit is one of the ten of its script. -/
theorem isDecimalDigit_iff {character : Char} : isDecimalDigit character = true ↔
    ∃ first ∈ zeroCodes, first ≤ character.toNat ∧ character.toNat < first + 10 := by
  simp [isDecimalDigit, digitValue?]

/-- The scripts have no blank among their digits. -/
theorem blankCodes_apart : ∀ first ∈ zeroCodes, ∀ code ∈ blankCodes,
    ¬(first ≤ code ∧ code < first + 10) := by decide

/-- No digit is blank. -/
theorem isBlank_of_isDecimalDigit {character : Char} (digit : isDecimalDigit character = true) :
    isBlank character = false := by
  obtain ⟨first, script, range⟩ := isDecimalDigit_iff.1 digit
  by_contra blank
  have code : character.toNat ∈ blankCodes := by simpa [isBlank] using blank
  exact blankCodes_apart first script _ code range

/-- Characters are digits if and only if each has a value. -/
theorem forall_isDecimalDigit_iff {characters : List Char} :
    (∀ character ∈ characters, isDecimalDigit character = true) ↔
      ∃ places : List Nat, characters.map digitValue? = places.map some := by
  constructor
  · intro decimal
    refine ⟨characters.map fun character => (digitValue? character).getD 0, ?_⟩
    rw [List.map_map]
    refine List.map_congr_left fun character inside => ?_
    obtain ⟨place, found⟩ := Option.isSome_iff_exists.1 (decimal character inside)
    simp [found]
  · rintro ⟨places, values⟩ character inside
    have named : digitValue? character ∈ places.map some := values ▸ List.mem_map_of_mem inside
    obtain ⟨place, -, found⟩ := List.mem_map.1 named
    rw [isDecimalDigit, ← found]
    rfl

/-- The number of digits is the number of their values at decimal places, the last at the lowest. -/
theorem decimalValue_eq_ofDigits {digits : List Char} {places : List Nat}
    (values : digits.map digitValue? = places.map some) :
    decimalValue digits = Nat.ofDigits 10 places.reverse := by
  have folded : ∀ start : Nat,
      digits.foldl (fun value digit => value * 10 + (digitValue? digit).getD 0) start =
        places.foldl (fun value place => place + 10 * value) start := by
    induction digits generalizing places with
    | nil =>
      rw [List.map_eq_nil_iff.1 values.symm]
      intro start
      rfl
    | cons digit rest ih =>
      cases places with
      | nil => simp at values
      | cons place others =>
        rw [List.map_cons, List.map_cons, List.cons.injEq] at values
        intro start
        rw [List.foldl_cons, List.foldl_cons, values.1, ih values.2, Option.getD_some]
        congr 1
        omega
  rw [decimalValue, folded, Nat.ofDigits_eq_foldr, List.foldr_reverse]
  rfl

end Text

namespace Dimacs

/-! ## What a text says -/

/-- The digits write the number at decimal places, and are not too many. -/
structure Numeral (digits : List Char) (value : Nat) : Prop where
  /-- There is a digit. -/
  nonempty : digits ≠ []
  /-- Each character is a digit, and their values make the number. -/
  places : ∃ places : List Nat, digits.map Text.digitValue? = places.map some ∧
    Nat.ofDigits 10 places.reverse = value
  /-- There are not too many digits. -/
  short : digits.length ≤ Text.digitLimit

/-- The word writes the signed number. A zero has no sign. -/
inductive Signed : List Char → Int → Prop
  /-- Digits alone. -/
  | plain {digits : List Char} {value : Nat} (numeral : Numeral digits value) : Signed digits value
  /-- Digits behind a minus sign. -/
  | minus {digits : List Char} {value : Nat} (numeral : Numeral digits value)
      (nonzero : value ≠ 0) : Signed ('-' :: digits) (-value)

/-- The characters are blank and there is one. -/
def Gap (characters : List Char) : Prop :=
  characters ≠ [] ∧ Text.AllBlank characters

/-- The line is the mark, the format and two numbers, with gaps between them. -/
def Heading (line : List Char) (header : Header) : Prop :=
  ∃ afterMark afterFormat numVars between numClauses after : List Char,
    line = ['p'] ++ (afterMark ++ (['c', 'n', 'f'] ++ (afterFormat ++
      (numVars ++ (between ++ (numClauses ++ after)))))) ∧
    Gap afterMark ∧ Gap afterFormat ∧ Gap between ∧ Text.AllBlank after ∧
    Numeral numVars header.numVars ∧ Numeral numClauses header.numClauses

/-- The lines that count: those before the end mark, without blanks around them, that are neither empty
nor comments. -/
def significant (lines : List (List Char)) : List (List Char) :=
  ((lines.map Text.trimBlanks).takeWhile fun line => line.head? ≠ some '%').filter fun line =>
    line ≠ [] ∧ line.head? ≠ some 'c'

/-- The words of the problem line, and the words of all lines behind it in one row. -/
def stream (lines : List (List Char)) : List (List Char) × List (List Char) :=
  let parts := (significant lines).map Text.words
  (parts.headD [], parts.tail.flatten)

/-- A problem line and the lines behind it say what the problem is. -/
structure Says (heading : List Char) (body : List (List Char)) (problem : Problem) : Prop where
  /-- The first line declares the variables and the clauses. -/
  heading : Heading heading ⟨problem.numVars, problem.clauses.length⟩
  /-- No other line is a problem line. -/
  single : ∀ line ∈ body, line.head? ≠ some 'p'
  /-- The words of the other lines write the clauses one after another, each with a zero behind it. -/
  tokens : ∃ rows, List.Forall₂ Text.Spaced rows body ∧
    List.Forall₂ Signed rows.flatten (problem.clauses.flatMap (· ++ [0]))
  /-- No clause holds a zero or a number beyond the variables. -/
  bounded : ∀ clause ∈ problem.clauses, ∀ number ∈ clause,
    number ≠ 0 ∧ number.natAbs ≤ problem.numVars

/-- The lines describe the problem. -/
def Describes (lines : List (List Char)) (problem : Problem) : Prop :=
  ∃ heading body, significant lines = heading :: body ∧ Says heading body problem

/-! ## Numbers and words -/

/-- A word of digits is not empty and has nothing else in it. -/
theorem isDigits_iff {word : List Char} : isDigits word = true ↔
    word ≠ [] ∧ ∀ character ∈ word, Text.isDecimalDigit character = true := by
  simp [isDigits]

/-- The reader of numbers takes exactly the numerals. -/
theorem numeral_iff {digits : List Char} {value : Nat} :
    Numeral digits value ↔ isDigits digits = true ∧ number digits = .ok value := by
  rw [isDigits_iff, Text.forall_isDecimalDigit_iff]
  constructor
  · rintro ⟨nonempty, ⟨places, values, rfl⟩, short⟩
    refine ⟨⟨nonempty, places, values⟩, ?_⟩
    rw [number, if_neg (by omega), Text.decimalValue_eq_ofDigits values]
  · rintro ⟨⟨nonempty, places, values⟩, read⟩
    rw [number] at read
    split at read
    · simp at read
    · rename_i short
      refine ⟨nonempty, ⟨places, values, ?_⟩, by omega⟩
      rw [← Text.decimalValue_eq_ofDigits values]
      exact Except.ok.inj read

/-- The digits of a number make a word. -/
theorem Numeral.isWord {digits : List Char} {value : Nat} (numeral : Numeral digits value) :
    Text.IsWord digits := by
  have decimal := (isDigits_iff.1 (numeral_iff.1 numeral).1).2
  exact ⟨numeral.nonempty, fun digit inside =>
    Text.isBlank_of_isDecimalDigit (decimal digit inside)⟩

/-- A character that is no digit starts no numeral. -/
theorem Numeral.ne_cons {digits rest : List Char} {value : Nat} {character : Char}
    (numeral : Numeral digits value) (other : Text.isDecimalDigit character = false) :
    digits ≠ character :: rest := by
  rintro rfl
  have decimal := (isDigits_iff.1 (numeral_iff.1 numeral).1).2 character (by simp)
  simp [other] at decimal

/-- A word writes the number of its digits, with the sign that stands before them. -/
theorem signed_iff {word : List Char} {value : Int} : Signed word value ↔
    ∃ magnitude : Nat, Numeral (unsign word).2 magnitude ∧
      ((unsign word).1 = true → magnitude ≠ 0) ∧
      value = if (unsign word).1 = true then -(magnitude : Int) else magnitude := by
  constructor
  · rintro (@⟨_, magnitude, numeral⟩ | @⟨_, magnitude, numeral, nonzero⟩)
    · have plain : unsign word = (false, word) := by
        rw [unsign]
        rintro rest rfl
        exact numeral.ne_cons (by decide) rfl
      rw [plain]
      exact ⟨magnitude, numeral, by simp, by simp⟩
    · exact ⟨magnitude, numeral, fun _ => nonzero, rfl⟩
  · rintro ⟨magnitude, numeral, nonzero, rfl⟩
    unfold unsign at numeral nonzero ⊢
    split at numeral
    · exact .minus numeral (nonzero rfl)
    · exact .plain numeral

/-- A signed number writes no word that starts with another character than a digit or a minus sign. -/
theorem Signed.head_ne {word : List Char} {value : Int} (signed : Signed word value)
    {character : Char} (sign : character ≠ '-') (other : Text.isDecimalDigit character = false) :
    word.head? ≠ some character := by
  intro first
  obtain ⟨rest, rfl⟩ := List.head?_eq_some_iff.1 first
  cases signed with
  | plain numeral => exact numeral.ne_cons other rfl
  | minus _ _ => exact sign rfl

/-! ## The problem line -/

/-- The mark and the format of a problem line are words. -/
theorem isWord_mark_format : Text.IsWord ['p'] ∧ Text.IsWord ['c', 'n', 'f'] := by
  refine ⟨⟨by simp, ?_⟩, ⟨by simp, ?_⟩⟩ <;> simp [Text.isBlank, Text.blankCodes]

/-- A problem line starts with its mark and falls into four words, the last two of them numbers. -/
theorem heading_iff_spaced {line : List Char} {header : Header} : Heading line header ↔
    line.head? = some 'p' ∧ ∃ numVars numClauses,
      Text.Spaced [['p'], ['c', 'n', 'f'], numVars, numClauses] line ∧
      Numeral numVars header.numVars ∧ Numeral numClauses header.numClauses := by
  constructor
  · rintro ⟨afterMark, afterFormat, numVars, between, numClauses, after, rfl, markGap, formatGap,
      gap, blank, vars, clauses⟩
    refine ⟨rfl, numVars, numClauses, ?_, vars, clauses⟩
    have last : Text.Spaced [numClauses] (numClauses ++ after) := by
      refine .word clauses.isWord (fun character first => ?_) (Text.spaced_nil_iff.2 blank)
      exact blank character (List.mem_of_mem_head? first)
    have third := (Text.Spaced.word vars.isWord (Text.breaks_append gap.1 gap.2 _)
      (last.blanks gap.2)).blanks formatGap.2
    have second := (Text.Spaced.word isWord_mark_format.2
      (Text.breaks_append formatGap.1 formatGap.2 _) third).blanks markGap.2
    exact .word isWord_mark_format.1 (Text.breaks_append markGap.1 markGap.2 _) second
  · rintro ⟨marked, numVars, numClauses, spaced, vars, clauses⟩
    obtain ⟨-, front, afterP, rfl, blank, breaks, behind⟩ := Text.spaced_cons_iff.1 spaced
    have bare : front = [] := by
      cases front with
      | nil => rfl
      | cons start _ =>
        have same : start = 'p' := by simpa using marked
        exact absurd (same ▸ blank start (by simp)) (by decide)
    subst bare
    obtain ⟨-, afterMark, _, rfl, markBlank, formatBreaks, behindFormat⟩ :=
      Text.spaced_cons_iff.1 behind
    obtain ⟨-, afterFormat, _, rfl, formatBlank, varsBreaks, behindVars⟩ :=
      Text.spaced_cons_iff.1 behindFormat
    obtain ⟨-, between, after, rfl, gapBlank, -, behindClauses⟩ := Text.spaced_cons_iff.1 behindVars
    refine ⟨afterMark, afterFormat, numVars, between, numClauses, after, rfl,
      ⟨?_, markBlank⟩, ⟨?_, formatBlank⟩, ⟨?_, gapBlank⟩, Text.spaced_nil_iff.1 behindClauses, vars,
      clauses⟩
    · exact breaks.front_ne_nil isWord_mark_format.2
    · exact formatBreaks.front_ne_nil vars.isWord
    · exact varsBreaks.front_ne_nil clauses.isWord

/-! ## The lines that count -/

/-- A line that counts is not empty, and starts with no blank. -/
theorem mem_significant {lines : List (List Char)} {line : List Char}
    (counts : line ∈ significant lines) :
    ∃ character, line.head? = some character ∧ Text.isBlank character = false := by
  obtain ⟨before, shape⟩ := List.mem_filter.1 counts
  obtain ⟨text, -, rfl⟩ := List.mem_map.1 (List.takeWhile_subset _ before)
  have nonempty : Text.trimBlanks text ≠ [] := by
    simp only [decide_eq_true_eq] at shape
    exact shape.1
  obtain ⟨character, rest, cut⟩ := List.exists_cons_of_ne_nil nonempty
  have first : (Text.trimBlanks text).head? = some character := by rw [cut, List.head?_cons]
  exact ⟨character, first, Text.head_trimBlanks first⟩

/-- Lines from an end mark on do not count; before it, empty lines and comments do not. -/
theorem significant_cons (text : List Char) (rest : List (List Char)) :
    significant (text :: rest) =
      if (Text.trimBlanks text).head? = some '%' then []
      else if Text.trimBlanks text = [] ∨ (Text.trimBlanks text).head? = some 'c' then
        significant rest
      else Text.trimBlanks text :: significant rest := by
  rw [significant, List.map_cons, List.takeWhile_cons]
  by_cases ends : (Text.trimBlanks text).head? = some '%'
  · rw [if_neg (by simpa using ends), if_pos ends, List.filter_nil]
  · rw [if_pos (by simpa using ends), if_neg ends, List.filter_cons]
    by_cases passed : Text.trimBlanks text = [] ∨ (Text.trimBlanks text).head? = some 'c'
    · rw [if_neg (by rw [decide_eq_true_eq]; tauto), if_pos passed, significant]
    · rw [if_pos (by rw [decide_eq_true_eq]; tauto), if_neg passed, significant]

/-! ## The words of a text -/

/-- The words of lines write numbers, however the lines are cut into words. -/
theorem tokens_iff {body : List (List Char)} {numbers : List Int} :
    (∃ rows, List.Forall₂ Text.Spaced rows body ∧ List.Forall₂ Signed rows.flatten numbers) ↔
      List.Forall₂ Signed (body.flatMap Text.words) numbers := by
  have cut : ∀ rows, List.Forall₂ Text.Spaced rows body ↔ rows = body.map Text.words := by
    intro rows
    rw [← List.forall₂_eq_eq_eq, List.forall₂_map_right_iff]
    exact ⟨.imp fun _ _ spaced => spaced.words_eq.symm,
      .imp fun _ _ same => Text.words_eq_iff.1 same.symm⟩
  simp only [cut, exists_eq_left, List.flatMap_def]

/-- A line with the words of a problem line is that problem line. -/
theorem Heading.of_words {line other : List Char} {header : Header} (heading : Heading line header)
    (same : Text.words other = Text.words line) {character : Char}
    (first : other.head? = some character) (solid : Text.isBlank character = false) :
    Heading other header := by
  obtain ⟨_, numVars, numClauses, spaced, vars, clauses⟩ := heading_iff_spaced.1 heading
  have otherSpaced := Text.words_eq_iff.1 (same.trans spaced.words_eq)
  obtain ⟨word, leads, start⟩ := otherSpaced.first first solid
  have mark : word = ['p'] := (Option.some.inj leads).symm
  refine heading_iff_spaced.2 ⟨?_, numVars, numClauses, otherSpaced, vars, clauses⟩
  rw [first, ← start, mark]
  rfl

/-- Lines whose words write numbers are no problem lines. -/
theorem head_ne_of_tokens {body : List (List Char)} {numbers : List Int}
    (tokens : List.Forall₂ Signed (body.flatMap Text.words) numbers) :
    ∀ line ∈ body, line.head? ≠ some 'p' := by
  intro line member first
  obtain ⟨word, leads, start⟩ := (Text.words_eq_iff.1 rfl).first first (by decide)
  have among : word ∈ body.flatMap Text.words :=
    List.mem_flatMap.2 ⟨line, member, List.mem_of_mem_head? leads⟩
  have unmarked : ∀ word ∈ body.flatMap Text.words, word.head? ≠ some 'p' :=
    ((List.forall₂_and_left _ _).1 (tokens.imp fun _ _ signed =>
      ⟨signed.head_ne (by decide) (by decide), signed⟩)).1
  exact unmarked word among start

/-- Lines that say the same in words describe the same problem. -/
theorem Describes.of_stream {lines others : List (List Char)} {problem : Problem}
    (described : Describes lines problem) (same : stream others = stream lines) :
    Describes others problem := by
  obtain ⟨heading, body, cut, said⟩ := described
  have headWords : Text.words heading ≠ [] := by
    obtain ⟨_, _, _, spaced, _⟩ := heading_iff_spaced.1 said.heading
    simp [spaced.words_eq]
  simp only [stream, cut, List.map_cons, List.headD_cons, List.tail_cons, Prod.mk.injEq] at same
  cases otherCut : significant others with
  | nil => exact absurd (by simpa [otherCut] using same.1.symm) headWords
  | cons otherHeading otherBody =>
    simp only [otherCut, List.map_cons, List.headD_cons, List.tail_cons] at same
    obtain ⟨sameHead, sameBody⟩ := same
    have tokens : List.Forall₂ Signed (otherBody.flatMap Text.words)
        (problem.clauses.flatMap (· ++ [0])) := by
      rw [List.flatMap_def, sameBody, ← List.flatMap_def]
      exact tokens_iff.1 said.tokens
    obtain ⟨character, first, solid⟩ := mem_significant
      (otherCut ▸ List.mem_cons_self : otherHeading ∈ significant others)
    exact ⟨otherHeading, otherBody, otherCut, said.heading.of_words sameHead first solid,
      head_ne_of_tokens tokens, tokens_iff.2 tokens, said.bounded⟩

end Dimacs

end Clausal
