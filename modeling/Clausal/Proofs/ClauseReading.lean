import Mathlib
import Clausal.Proofs.ClauseGrammar
import Clausal.Proofs.SignedMeaning

/-!
# Reading clause files

The reader goes over the lines once and keeps finished clauses and the clause under way. What it has
read can be told from what it keeps: the numbers read so far are the finished clauses, each with its
zero, and then the clause under way. This carries the reader to the grammar and back: it accepts exactly
the texts that the grammar describes, and gives the problem that they describe.
-/

namespace Clausal

namespace Dimacs

/-! ## Words -/

/-- The number joins what has been read: a zero ends the clause under way. -/
def Progress.take (progress : Progress) (number : Int) : Progress :=
  if number = 0 then
    { progress with clauses := progress.current.reverse :: progress.clauses, current := [] }
  else { progress with current := number :: progress.current }

/-- Taking a number leaves the problem line alone. -/
@[simp]
theorem Progress.header_take (progress : Progress) (number : Int) :
    (progress.take number).header = progress.header := by
  rw [take]
  split <;> rfl

/-- A word is read if and only if it writes a number within the variables, which is taken. A zero is within
all variables, so only its sign matters. -/
theorem readWord_eq_ok_iff {line numVars : Nat} {progress next : Progress} {word : List Char} :
    readWord line numVars progress word = .ok next ↔
      ∃ value, Signed word value ∧ value.natAbs ≤ numVars ∧ next = progress.take value := by
  simp only [signed_iff, numeral_iff, readWord]
  generalize unsign word = parts
  obtain ⟨negative, digits⟩ := parts
  cases decimal : isDigits digits with
  | false => simp
  | true =>
    cases read : number digits with
    | error fault => simp
    | ok magnitude =>
      by_cases zero : magnitude = 0
      · subst zero
        cases negative <;> simp [Progress.take, eq_comm]
      · generalize literal_eq : (if negative = true then -(magnitude : Int) else magnitude) = literal
        have magnitude_eq : literal.natAbs = magnitude := by
          rw [← literal_eq]
          cases negative <;> simp
        have nonzero : literal ≠ 0 := by omega
        have taken : progress.take literal =
            { progress with current := literal :: progress.current } := if_neg nonzero
        by_cases large : numVars < magnitude
        · simp [zero, large, literal_eq, magnitude_eq]
        · have small : magnitude ≤ numVars := by omega
          simp [zero, large, literal_eq, magnitude_eq, small, taken, eq_comm]

/-- A chain of two steps succeeds if and only if both do. -/
theorem bind_eq_ok_iff {Error First Second : Type} {first : Except Error First}
    {next : First → Except Error Second} {result : Second} :
    (first >>= next) = .ok result ↔ ∃ value, first = .ok value ∧ next value = .ok result := by
  cases first <;> simp [bind, Except.bind]

/-- Words are read if and only if they write numbers within the variables, which are taken in turn. -/
theorem foldlM_readWord_iff {line numVars : Nat} {progress next : Progress}
    {words : List (List Char)} :
    words.foldlM (readWord line numVars) progress = .ok next ↔
      ∃ values, List.Forall₂ Signed words values ∧ (∀ value ∈ values, value.natAbs ≤ numVars) ∧
        next = values.foldl Progress.take progress := by
  induction words generalizing progress with
  | nil => simp [pure, Except.pure, eq_comm]
  | cons word others ih =>
    simp only [List.foldlM_cons, bind_eq_ok_iff, readWord_eq_ok_iff, ih,
      List.forall₂_cons_left_iff]
    constructor
    · rintro ⟨_, ⟨value, signed, small, rfl⟩, values, written, bounded, rfl⟩
      exact ⟨value :: values, ⟨value, values, signed, written, rfl⟩,
        List.forall_mem_cons.2 ⟨small, bounded⟩, rfl⟩
    · rintro ⟨_, ⟨value, values, signed, written, rfl⟩, bounded, rfl⟩
      obtain ⟨small, bounded⟩ := List.forall_mem_cons.1 bounded
      exact ⟨_, ⟨value, signed, small, rfl⟩, values, written, bounded, rfl⟩

/-- A line that starts like a problem line is read if and only if it is one. -/
theorem readHeader_eq_ok_iff {line : Nat} {text : List Char} {header : Header}
    (marked : text.head? = some 'p') :
    readHeader line text = .ok header ↔ Heading text header := by
  rw [heading_iff_spaced]
  simp only [marked, true_and, ← Text.words_eq_iff, numeral_iff, readHeader]
  split
  · rename_i mark format numVars numClauses parts
    simp only [parts, List.cons.injEq, and_true]
    constructor
    · intro accepted
      split at accepted
      · rename_i shape
        obtain ⟨isMark, isFormat, vars, clauses⟩ := shape
        split at accepted
        · rename_i readVars readClauses
          cases accepted
          exact ⟨numVars, numClauses, ⟨isMark, isFormat, rfl, rfl⟩, ⟨vars, readVars⟩,
            ⟨clauses, readClauses⟩⟩
        all_goals simp at accepted
      · simp at accepted
    · rintro ⟨_, _, ⟨rfl, rfl, rfl, rfl⟩, ⟨vars, readVars⟩, ⟨clauses, readClauses⟩⟩
      rw [if_pos ⟨rfl, rfl, vars, clauses⟩, readVars, readClauses]
  · rename_i other
    simp only [reduceCtorEq, false_iff, not_exists, not_and]
    intro numVars numClauses parts
    exact absurd parts (other _ _ _ _)

/-! ## What has been read -/

/-- What has been read is complete and is the problem. -/
def Progress.Yields (progress : Progress) (problem : Problem) : Prop :=
  progress.header = some ⟨problem.numVars, problem.clauses.length⟩ ∧ progress.current = [] ∧
    progress.clauses.reverse = problem.clauses

/-- The judgement at the end accepts exactly what is complete. -/
theorem finish_eq_ok_iff {line : Nat} {progress : Progress} {problem : Problem} :
    finish line progress = .ok problem ↔ progress.Yields problem := by
  obtain ⟨header, clauses, current⟩ := progress
  obtain ⟨given, numVars⟩ := problem
  cases header with
  | none => simp [finish, Progress.Yields]
  | some header =>
    obtain ⟨declared, numClauses⟩ := header
    simp only [finish, Progress.Yields, Option.some.injEq, Header.mk.injEq]
    constructor
    · intro accepted
      split at accepted
      · simp at accepted
      · rename_i complete
        split at accepted
        · simp at accepted
        · rename_i counted
          cases accepted
          exact ⟨⟨rfl, by simpa using Eq.symm (not_not.1 counted)⟩, by simpa using complete, rfl⟩
    · rintro ⟨⟨rfl, rfl⟩, rfl, rfl⟩
      simp

/-- Taking numbers leaves the problem line alone. -/
theorem Progress.header_foldl_take (values : List Int) (progress : Progress) :
    (values.foldl Progress.take progress).header = progress.header := by
  induction values generalizing progress with
  | nil => rfl
  | cons value rest ih => rw [List.foldl_cons, ih, header_take]

/-- The numbers read so far: finished clauses, each with its zero, and then the clause under way. -/
def Progress.values (progress : Progress) : List Int :=
  progress.clauses.reverse.flatMap (· ++ [0]) ++ progress.current.reverse

/-- A number is taken behind those read before. -/
theorem Progress.values_take (progress : Progress) (number : Int) :
    (progress.take number).values = progress.values ++ [number] := by
  unfold take
  split
  · rename_i zero
    simp [values, zero]
  · simp [values]

/-- Numbers are taken behind those read before. -/
theorem Progress.values_foldl_take (numbers : List Int) (progress : Progress) :
    (numbers.foldl take progress).values = progress.values ++ numbers := by
  induction numbers generalizing progress with
  | nil => simp
  | cons number rest ih => rw [List.foldl_cons, ih, values_take, List.append_assoc]; rfl

/-- Zeros only end clauses. -/
structure Progress.ZeroFree (progress : Progress) : Prop where
  /-- No finished clause holds a zero. -/
  clauses : ∀ clause ∈ progress.clauses, ∀ number ∈ clause, number ≠ 0
  /-- The clause under way holds no zero. -/
  current : ∀ number ∈ progress.current, number ≠ 0

/-- Taking a number keeps zeros out of the clauses. -/
theorem Progress.ZeroFree.take {progress : Progress} (free : progress.ZeroFree) (number : Int) :
    (progress.take number).ZeroFree := by
  unfold Progress.take
  split
  · refine ⟨List.forall_mem_cons.2 ⟨?_, free.clauses⟩, by simp⟩
    simpa using free.current
  · rename_i nonzero
    exact ⟨free.clauses, List.forall_mem_cons.2 ⟨nonzero, free.current⟩⟩

/-- Taking numbers keeps zeros out of the clauses. -/
theorem Progress.ZeroFree.foldl_take {progress : Progress} (free : progress.ZeroFree)
    (numbers : List Int) : (numbers.foldl Progress.take progress).ZeroFree := by
  induction numbers generalizing progress with
  | nil => exact free
  | cons number rest ih => exact ih (free.take number)

/-- Numbers other than zero join the clause under way. -/
theorem Progress.foldl_take_of_ne_zero {numbers : List Int} (nonzero : ∀ number ∈ numbers, number ≠ 0)
    (progress : Progress) : numbers.foldl take progress =
      { progress with current := numbers.reverse ++ progress.current } := by
  induction numbers generalizing progress with
  | nil => rfl
  | cons number rest ih =>
    obtain ⟨here, behind⟩ := List.forall_mem_cons.1 nonzero
    rw [List.foldl_cons, ih behind, take, if_neg here]
    simp

/-- Clauses without a zero, each with a zero behind it, become the finished clauses. -/
theorem Progress.foldl_take_clauses {clauses : List (List Int)}
    (nonzero : ∀ clause ∈ clauses, ∀ number ∈ clause, number ≠ 0) (header : Option Header)
    (finished : List (List Int)) :
    (clauses.flatMap (· ++ [0])).foldl take ⟨header, finished, []⟩ =
      ⟨header, clauses.reverse ++ finished, []⟩ := by
  induction clauses generalizing finished with
  | nil => rfl
  | cons clause rest ih =>
    obtain ⟨here, behind⟩ := List.forall_mem_cons.1 nonzero
    rw [List.flatMap_cons, List.foldl_append, List.foldl_append, foldl_take_of_ne_zero here]
    simp [take, ih behind]

/-- Numbers taken behind a problem line make up a problem if and only if they are its clauses, each
with a zero behind it. -/
theorem yields_foldl_take_iff {header : Header} {numbers : List Int} {problem : Problem} :
    (numbers.foldl Progress.take ⟨some header, [], []⟩).Yields problem ↔
      header = ⟨problem.numVars, problem.clauses.length⟩ ∧
      numbers = problem.clauses.flatMap (· ++ [0]) ∧
      ∀ clause ∈ problem.clauses, ∀ number ∈ clause, number ≠ 0 := by
  constructor
  · rintro ⟨declared, complete, finished⟩
    rw [Progress.header_foldl_take] at declared
    have read := Progress.values_foldl_take numbers ⟨some header, [], []⟩
    have free : Progress.ZeroFree ⟨some header, [], []⟩ := ⟨by simp, by simp⟩
    rw [Progress.values, complete, finished] at read
    refine ⟨Option.some.inj declared, by simpa [Progress.values] using read.symm, ?_⟩
    rw [← finished]
    simpa using (free.foldl_take numbers).clauses
  · rintro ⟨rfl, rfl, nonzero⟩
    rw [Progress.foldl_take_clauses nonzero]
    exact ⟨rfl, rfl, by simp⟩

/-! ## Reading line by line -/

/-- The lines of clauses write the numbers, each within the variables. -/
structure Writes (numVars : Nat) (lines : List (List Char)) (values : List Int) : Prop where
  /-- No line is a problem line. -/
  single : ∀ line ∈ lines, line.head? ≠ some 'p'
  /-- The words of the lines write the numbers. -/
  tokens : List.Forall₂ Signed (lines.flatMap Text.words) values
  /-- The numbers are within the variables. -/
  bounded : ∀ value ∈ values, value.natAbs ≤ numVars

/-- Two rows of words write two rows of numbers. -/
theorem forall₂_signed_append_iff {front rest : List (List Char)} {values : List Int} :
    List.Forall₂ Signed (front ++ rest) values ↔ ∃ first later, List.Forall₂ Signed front first ∧
      List.Forall₂ Signed rest later ∧ values = first ++ later := by
  constructor
  · intro written
    refine ⟨values.take front.length, values.drop front.length, ?_, ?_,
      (List.take_append_drop _ _).symm⟩
    · simpa using List.forall₂_take front.length written
    · simpa using List.forall₂_drop front.length written
  · rintro ⟨first, later, front, rest, rfl⟩
    exact List.rel_append front rest

/-- Lines write numbers line by line. -/
theorem writes_cons_iff {numVars : Nat} {line : List Char} {rest : List (List Char)}
    {values : List Int} : Writes numVars (line :: rest) values ↔ line.head? ≠ some 'p' ∧
      ∃ first later, (List.Forall₂ Signed (Text.words line) first ∧
        ∀ value ∈ first, value.natAbs ≤ numVars) ∧ Writes numVars rest later ∧
        values = first ++ later := by
  constructor
  · rintro ⟨single, tokens, bounded⟩
    obtain ⟨first, later, here, behind, rfl⟩ := forall₂_signed_append_iff.1 tokens
    obtain ⟨unmarked, single⟩ := List.forall_mem_cons.1 single
    obtain ⟨small, bounded⟩ := List.forall_mem_append.1 bounded
    exact ⟨unmarked, first, later, ⟨here, small⟩, ⟨single, behind, bounded⟩, rfl⟩
  · rintro ⟨unmarked, first, later, ⟨here, small⟩, ⟨single, behind, bounded⟩, rfl⟩
    exact ⟨List.forall_mem_cons.2 ⟨unmarked, single⟩,
      forall₂_signed_append_iff.2 ⟨first, later, here, behind, rfl⟩,
      List.forall_mem_append.2 ⟨small, bounded⟩⟩

/-- No lines write no numbers. -/
theorem writes_nil_iff {numVars : Nat} {values : List Int} :
    Writes numVars [] values ↔ values = [] := by
  constructor
  · intro writes
    simpa using writes.tokens
  · rintro rfl
    exact ⟨by simp, .nil, by simp⟩

/-- What a line asks for depends on how it starts. -/
theorem readLine_eq (line : Nat) (progress : Progress) (text : List Char) :
    readLine line progress text =
      if (Text.trimBlanks text).head? = some '%' then .ok .stop
      else if Text.trimBlanks text = [] ∨ (Text.trimBlanks text).head? = some 'c' then
        .ok (.proceed progress)
      else if (Text.trimBlanks text).head? = some 'p' then
        if progress.header.isSome then .error (.malformed line .duplicateProblemLine)
        else (readHeader line (Text.trimBlanks text)).map fun header =>
          .proceed { progress with header := some header }
      else progress.header.elim (.error (.malformed line .clauseFirst)) fun header =>
        ((Text.words (Text.trimBlanks text)).foldlM (readWord line header.numVars) progress).map
          .proceed := by
  unfold readLine
  generalize Text.trimBlanks text = trimmed
  dsimp only
  split
  · simp
  · simp
  · simp
  · simp
  · rename_i nonempty noComment noEnd noProblem
    have plain : ∀ character : Char, (∀ rest, trimmed = character :: rest → False) →
        ¬trimmed.head? = some character := by
      intro character absent first
      obtain ⟨rest, cut⟩ := List.head?_eq_some_iff.1 first
      exact absent rest cut
    rw [if_neg (plain _ noEnd), if_neg (not_or.2 ⟨nonempty, plain _ noComment⟩),
      if_neg (plain _ noProblem)]
    cases progress.header <;> rfl

/-- How reading goes on at a line depends on how the line starts. -/
theorem readFrom_cons (broken : Option FileFault) (line : Nat) (progress : Progress)
    (text : List Char) (rest : List (List Char)) :
    readFrom broken line progress (text :: rest) =
      if (Text.trimBlanks text).head? = some '%' then finish (line + 1) progress
      else if Text.trimBlanks text = [] ∨ (Text.trimBlanks text).head? = some 'c' then
        readFrom broken (line + 1) progress rest
      else if (Text.trimBlanks text).head? = some 'p' then
        if progress.header.isSome then .error (.malformed (line + 1) .duplicateProblemLine)
        else readHeader (line + 1) (Text.trimBlanks text) >>= fun header =>
          readFrom broken (line + 1) { progress with header := some header } rest
      else progress.header.elim (.error (.malformed (line + 1) .clauseFirst)) fun header =>
        (Text.words (Text.trimBlanks text)).foldlM (readWord (line + 1) header.numVars) progress >>=
          fun next => readFrom broken (line + 1) next rest := by
  rw [readFrom, readLine_eq]
  by_cases ends : (Text.trimBlanks text).head? = some '%'
  · rw [if_pos ends, if_pos ends]
  rw [if_neg ends, if_neg ends]
  by_cases passed : Text.trimBlanks text = [] ∨ (Text.trimBlanks text).head? = some 'c'
  · rw [if_pos passed, if_pos passed]
  rw [if_neg passed, if_neg passed]
  by_cases marked : (Text.trimBlanks text).head? = some 'p'
  · rw [if_pos marked, if_pos marked]
    cases progress.header with
    | some header => rfl
    | none => cases readHeader (line + 1) (Text.trimBlanks text) <;> rfl
  · rw [if_neg marked, if_neg marked]
    cases progress.header with
    | none => rfl
    | some header =>
      rw [Option.elim_some, Option.elim_some]
      cases (Text.words (Text.trimBlanks text)).foldlM (readWord (line + 1) header.numVars)
        progress <;> rfl

/-- Behind the problem line, the reader accepts the lines that write numbers which complete what has been
read. Both tell lines apart in the same order: an end mark, a line to pass over, a second problem line, a
line of clauses. -/
theorem readFrom_declared_iff {line : Nat} {progress : Progress} {header : Header}
    (declared : progress.header = some header) {lines : List (List Char)} {problem : Problem} :
    readFrom none line progress lines = .ok problem ↔ ∃ values,
      Writes header.numVars (significant lines) values ∧
      (values.foldl Progress.take progress).Yields problem := by
  induction lines generalizing line progress with
  | nil =>
    have none : significant [] = [] := rfl
    simp [readFrom, finish_eq_ok_iff, none, writes_nil_iff]
  | cons text rest ih =>
    rw [readFrom_cons, significant_cons]
    by_cases ends : (Text.trimBlanks text).head? = some '%'
    · rw [if_pos ends, if_pos ends]
      simp [finish_eq_ok_iff, writes_nil_iff]
    rw [if_neg ends, if_neg ends]
    by_cases passed : Text.trimBlanks text = [] ∨ (Text.trimBlanks text).head? = some 'c'
    · rw [if_pos passed, if_pos passed]
      exact ih declared
    rw [if_neg passed, if_neg passed]
    by_cases marked : (Text.trimBlanks text).head? = some 'p'
    · simp [marked, declared, writes_cons_iff]
    rw [if_neg marked, declared]
    simp only [Option.elim_some, bind_eq_ok_iff, foldlM_readWord_iff, writes_cons_iff]
    constructor
    · rintro ⟨_, ⟨first, here, small, rfl⟩, accepted⟩
      obtain ⟨later, behind, yields⟩ :=
        (ih ((Progress.header_foldl_take _ _).trans declared)).1 accepted
      refine ⟨first ++ later, ⟨marked, first, later, ⟨here, small⟩, behind, rfl⟩, ?_⟩
      rwa [List.foldl_append]
    · rintro ⟨_, ⟨-, first, later, ⟨here, small⟩, behind, rfl⟩, yields⟩
      rw [List.foldl_append] at yields
      exact ⟨_, ⟨first, here, small, rfl⟩,
        (ih ((Progress.header_foldl_take _ _).trans declared)).2 ⟨later, behind, yields⟩⟩

/-- Up to the problem line, the reader passes over the lines that do not count. -/
theorem readFrom_start_iff {line : Nat} {lines : List (List Char)} {problem : Problem} :
    readFrom none line .start lines = .ok problem ↔ ∃ heading body header values,
      significant lines = heading :: body ∧ Heading heading header ∧
      Writes header.numVars body values ∧
      (values.foldl Progress.take ⟨some header, [], []⟩).Yields problem := by
  induction lines generalizing line with
  | nil =>
    have none : significant [] = [] := rfl
    simp [readFrom, finish_eq_ok_iff, none, Progress.Yields, Progress.start]
  | cons text rest ih =>
    rw [readFrom_cons, significant_cons]
    by_cases ends : (Text.trimBlanks text).head? = some '%'
    · rw [if_pos ends, if_pos ends]
      simp [finish_eq_ok_iff, Progress.Yields, Progress.start]
    rw [if_neg ends, if_neg ends]
    by_cases passed : Text.trimBlanks text = [] ∨ (Text.trimBlanks text).head? = some 'c'
    · rw [if_pos passed, if_pos passed]
      exact ih
    rw [if_neg passed, if_neg passed]
    by_cases marked : (Text.trimBlanks text).head? = some 'p'
    · rw [if_pos marked, if_neg (by simp [Progress.start])]
      simp only [bind_eq_ok_iff, readHeader_eq_ok_iff marked, List.cons.injEq]
      constructor
      · rintro ⟨header, heading, accepted⟩
        obtain ⟨values, writes, yields⟩ := (readFrom_declared_iff rfl).1 accepted
        exact ⟨_, _, header, values, ⟨rfl, rfl⟩, heading, writes, yields⟩
      · rintro ⟨_, _, header, values, ⟨rfl, rfl⟩, heading, writes, yields⟩
        exact ⟨header, heading, (readFrom_declared_iff rfl).2 ⟨values, writes, yields⟩⟩
    · rw [if_neg marked]
      simp only [Progress.start, Option.elim_none, reduceCtorEq, List.cons.injEq, false_iff,
        not_exists, not_and]
      rintro _ _ header values ⟨rfl, rfl⟩ heading
      exact absurd (heading_iff_spaced.1 heading).1 marked

/-! ## The reader and the grammar -/

/-- The reader accepts exactly the lines that describe a problem. -/
theorem readFrom_eq_ok_iff {line : Nat} {lines : List (List Char)} {problem : Problem} :
    readFrom none line .start lines = .ok problem ↔ Describes lines problem := by
  simp only [readFrom_start_iff, yields_foldl_take_iff]
  constructor
  · rintro ⟨heading, body, _, _, cut, declared, writes, rfl, rfl, nonzero⟩
    refine ⟨heading, body, cut, declared, writes.single, tokens_iff.2 writes.tokens, ?_⟩
    intro clause member number inside
    refine ⟨nonzero clause member number inside, writes.bounded number ?_⟩
    exact List.mem_flatMap.2 ⟨clause, member, List.mem_append_left _ inside⟩
  · rintro ⟨heading, body, cut, said⟩
    refine ⟨heading, body, _, _, cut, said.heading, ⟨said.single, tokens_iff.1 said.tokens, ?_⟩, rfl,
      rfl, fun clause member number inside => (said.bounded clause member number inside).1⟩
    intro number member
    obtain ⟨clause, among, inside⟩ := List.mem_flatMap.1 member
    rcases List.mem_append.1 inside with within | ending
    · exact (said.bounded clause among number within).2
    · rw [List.mem_singleton.1 ending]
      exact Nat.zero_le _

/-- A stream that breaks off is accepted only where its lines alone are. -/
theorem readFrom_none_of_broken {broken : Option FileFault} {line : Nat} {progress : Progress}
    {lines : List (List Char)} {problem : Problem}
    (accepted : readFrom broken line progress lines = .ok problem) :
    readFrom none line progress lines = .ok problem := by
  induction lines generalizing line progress with
  | nil =>
    cases broken with
    | none => exact accepted
    | some fault => simp [readFrom] at accepted
  | cons text rest ih =>
    rw [readFrom] at accepted ⊢
    cases step : readLine (line + 1) progress text with
    | error fault => simp [step] at accepted
    | ok result =>
      cases result with
      | stop => simpa [step] using accepted
      | proceed next =>
        rw [step] at accepted
        exact ih accepted

/-- A problem that is read has no zero in its clauses and no number beyond its variables. -/
theorem read_bounded {files : Files} {path : String} {problem : Problem}
    (accepted : read files path = .ok problem) : ∀ clause ∈ problem.clauses, ∀ number ∈ clause,
      number ≠ 0 ∧ number.natAbs ≤ problem.numVars := by
  unfold read readSource at accepted
  split at accepted
  · simp at accepted
  · obtain ⟨_, _, _, said⟩ := readFrom_eq_ok_iff.1 (readFrom_none_of_broken accepted)
    exact said.bounded

/-- A problem that is read makes a formula. -/
theorem exists_formula {files : Files} {path : String} {problem : Problem}
    (accepted : read files path = .ok problem) :
    ∃ formula, Formula.ofDimacs problem.clauses problem.numVars = .ok formula :=
  Formula.exists_ofDimacs (by omega) fun clause member number inside =>
    ⟨(read_bounded accepted clause member number inside).1,
      by exact_mod_cast (read_bounded accepted clause member number inside).2⟩

/-- Reading depends only on the words. -/
theorem toOption_parse_eq_of_stream {lines others : List String}
    (same : stream (others.map String.toList) = stream (lines.map String.toList)) :
    (parse others).toOption = (parse lines).toOption := by
  refine Option.ext fun problem => ?_
  have accepted : ∀ given : List String,
      (parse given).toOption = some problem ↔ Describes (given.map String.toList) problem := by
    intro given
    rw [← readFrom_eq_ok_iff, parse]
    cases readFrom none 0 Progress.start (given.map String.toList) <;> simp [Except.toOption]
  rw [accepted, accepted]
  exact ⟨fun described => described.of_stream same.symm,
    fun described => described.of_stream same⟩

/-- The reader accepts exactly the texts that describe a problem, gives the problem described, and
refuses all others. What it gives depends only on the words, and always makes a formula. -/
theorem parse_accepts_described (lines : List String) :
    (∀ problem, parse lines = .ok problem ↔ Describes (lines.map String.toList) problem) ∧
    ((∀ problem, ¬Describes (lines.map String.toList) problem) →
      ∃ fault, parse lines = .error fault) ∧
    (∀ others : List String,
      stream (others.map String.toList) = stream (lines.map String.toList) →
        (parse others).toOption = (parse lines).toOption) ∧
    ∀ problem, parse lines = .ok problem →
      ∃ formula, Formula.ofDimacs problem.clauses problem.numVars = .ok formula := by
  have accepts : ∀ problem,
      parse lines = .ok problem ↔ Describes (lines.map String.toList) problem :=
    fun problem => readFrom_eq_ok_iff
  refine ⟨accepts, fun none => ?_, fun others same => toOption_parse_eq_of_stream same,
    fun problem accepted => ?_⟩
  · cases result : parse lines with
    | error fault => exact ⟨fault, rfl⟩
    | ok problem => exact absurd ((accepts problem).1 result) (none problem)
  · obtain ⟨_, _, _, said⟩ := (accepts problem).1 accepted
    refine Formula.exists_ofDimacs (by omega) fun clause member number inside => ?_
    obtain ⟨nonzero, bounded⟩ := said.bounded clause member number inside
    exact ⟨nonzero, by omega⟩

/-- A text with a comment, an empty line, a clause over two lines and more behind the end mark describes
the problem of its words, as they are on two lines. A zero with a sign describes nothing. -/
theorem parse_accepts_described_over_lines :
    Describes (["c two", " p  cnf 2 2", "1 -2 0 2", "", "0", "%", "p"].map String.toList)
      ⟨[[1, -2], [2]], 2⟩ ∧
    (parse ["p cnf 2 2", "1 -2 0 2 0"]).toOption = some ⟨[[1, -2], [2]], 2⟩ ∧
    (∃ formula, Formula.ofDimacs [[1, -2], [2]] 2 = .ok formula) ∧
    (∀ problem, ¬Describes (["p cnf 1 1", "-0"].map String.toList) problem) ∧
    ∃ fault, parse ["p cnf 1 1", "-0"] = .error fault := by
  have read : parse ["c two", " p  cnf 2 2", "1 -2 0 2", "", "0", "%", "p"] =
      .ok ⟨[[1, -2], [2]], 2⟩ := by decide
  have refused : parse ["p cnf 1 1", "-0"] = .error (.malformed 2 .negatedZero) := by decide
  have absent : ∀ problem, ¬Describes (["p cnf 1 1", "-0"].map String.toList) problem := by
    intro problem described
    rw [← (parse_accepts_described _).1, refused] at described
    simp at described
  obtain ⟨accepts, -, words, formula⟩ :=
    parse_accepts_described ["c two", " p  cnf 2 2", "1 -2 0 2", "", "0", "%", "p"]
  refine ⟨(accepts _).1 read, ?_, formula _ read, absent, (parse_accepts_described _).2.1 absent⟩
  rw [words _ (by decide), read]
  rfl

end Dimacs

end Clausal
