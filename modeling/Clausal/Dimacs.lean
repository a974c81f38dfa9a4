import Clausal.Files
import Clausal.Text.Blank
import Clausal.Text.Digit

/-!
# Clause files

The reader of clause files. A line is taken without blanks around it. Empty lines and lines that start
with `c` are passed over; a line that starts with `%` ends the file; a line that starts with `p` is the
problem line, of which there is one and which comes before every clause. All other lines are words, each
of which is a literal or a zero that ends a clause; clauses may go over several lines.

Faults name the line they were met at; those of the file as a whole name the last line that was read.
-/

namespace Clausal

namespace Dimacs

/-- What is wrong with a clause file. -/
inductive Cause where
  /-- A second problem line. -/
  | duplicateProblemLine
  /-- A line that starts like a problem line and is none. -/
  | malformedProblemLine
  /-- A clause before the problem line. -/
  | clauseFirst
  /-- A word that is not a literal. -/
  | notALiteral (word : String)
  /-- A zero with a sign. -/
  | negatedZero
  /-- A literal beyond the declared variables. -/
  | literalTooLarge (literal : Int) (numVars : Nat)
  /-- There is no problem line. -/
  | noProblemLine
  /-- The last clause has no zero at its end. -/
  | unterminatedClause
  /-- The number of clauses is not the declared one. -/
  | clauseCount (declared found : Nat)
deriving DecidableEq

namespace Cause

/-- The cause in words. -/
def text : Cause → String
  | duplicateProblemLine => "duplicate problem line"
  | malformedProblemLine => "expected `p cnf <int> <int>` format"
  | clauseFirst => "clause before the `p cnf` problem line"
  | notALiteral word => s!"expected literal, got `{word}`"
  | negatedZero => "unexpected negated `0`, illegal end of clause marker"
  | literalTooLarge literal numVars =>
    s!"literal {literal} exceeds the declared {numVars} variable(s)"
  | noProblemLine => "missing `p cnf` problem line"
  | unterminatedClause => "last clause is not terminated by `0`"
  | clauseCount declared found => s!"header announces {declared} clause(s), found {found}"

end Cause

/-- Why a clause file cannot be read. -/
inductive ReadFault where
  /-- The text is wrong at a line. -/
  | malformed (line : Nat) (cause : Cause)
  /-- A number has too many digits. -/
  | tooManyDigits (digits : Nat)
  /-- The file cannot be read. -/
  | file (fault : FileFault)
deriving DecidableEq

namespace ReadFault

/-- The sentence that reports a fault. -/
def message : ReadFault → String
  | malformed line cause => s!"error line {line}: {cause.text}"
  | tooManyDigits digits => Text.digitsMessage digits
  | file fault => fault.message

end ReadFault

/-- The content of a clause file: signed clauses over a number of variables. -/
structure Problem where
  /-- The clauses. -/
  clauses : List (List Int)
  /-- The number of variables. -/
  numVars : Nat
deriving DecidableEq

/-- What the problem line declares. -/
structure Header where
  /-- The number of variables. -/
  numVars : Nat
  /-- The number of clauses. -/
  numClauses : Nat
deriving DecidableEq

/-- What has been read so far. -/
structure Progress where
  /-- The problem line, once it has been read. -/
  header : Option Header
  /-- The finished clauses, latest first. -/
  clauses : List (List Int)
  /-- The literals of the clause under way, latest first. -/
  current : List Int
deriving DecidableEq

/-- Nothing has been read. -/
def Progress.start : Progress := ⟨none, [], []⟩

/-- The number of a word of digits, refused when there are too many. -/
def number (digits : List Char) : Except ReadFault Nat :=
  if Text.digitLimit < digits.length then .error (.tooManyDigits digits.length)
  else .ok (Text.decimalValue digits)

/-- The word is made of digits. -/
def isDigits (word : List Char) : Bool :=
  !word.isEmpty && word.all Text.isDecimalDigit

/-- Reads the problem line. -/
def readHeader (line : Nat) (text : List Char) : Except ReadFault Header :=
  match Text.words text with
  | [mark, format, numVars, clauses] =>
    if mark = ['p'] ∧ format = ['c', 'n', 'f'] ∧ isDigits numVars ∧ isDigits clauses then
      match number numVars, number clauses with
      | .ok numVars, .ok numClauses => .ok ⟨numVars, numClauses⟩
      | .error fault, _ => .error fault
      | _, .error fault => .error fault
    else .error (.malformed line .malformedProblemLine)
  | _ => .error (.malformed line .malformedProblemLine)

/-- Whether a word has a sign, and its digits. -/
def unsign : List Char → Bool × List Char
  | '-' :: digits => (true, digits)
  | digits => (false, digits)

/-- Reads one word of a clause. -/
def readWord (line : Nat) (numVars : Nat) (progress : Progress) (word : List Char) :
    Except ReadFault Progress :=
  let (negative, digits) := unsign word
  if !isDigits digits then .error (.malformed line (.notALiteral (String.ofList word)))
  else match number digits with
    | .error fault => .error fault
    | .ok magnitude =>
      let literal : Int := if negative then -magnitude else magnitude
      if magnitude = 0 then
        if negative then .error (.malformed line .negatedZero)
        else .ok { progress with
          clauses := progress.current.reverse :: progress.clauses, current := [] }
      else if numVars < magnitude then
        .error (.malformed line (.literalTooLarge literal numVars))
      else .ok { progress with current := literal :: progress.current }

/-- What a line asks for. -/
inductive LineResult where
  /-- Reading goes on. -/
  | proceed (progress : Progress)
  /-- The file ends here. -/
  | stop

/-- Reads one line. -/
def readLine (line : Nat) (progress : Progress) (text : List Char) :
    Except ReadFault LineResult :=
  let trimmed := Text.trimBlanks text
  match trimmed with
  | [] => .ok (.proceed progress)
  | 'c' :: _ => .ok (.proceed progress)
  | '%' :: _ => .ok .stop
  | 'p' :: _ =>
    if progress.header.isSome then .error (.malformed line .duplicateProblemLine)
    else (readHeader line trimmed).map fun header =>
      .proceed { progress with header := some header }
  | _ =>
    match progress.header with
    | none => .error (.malformed line .clauseFirst)
    | some header =>
      ((Text.words trimmed).foldlM (readWord line header.numVars) progress).map .proceed

/-- Judges what has been read up to the given line. -/
def finish (line : Nat) (progress : Progress) : Except ReadFault Problem :=
  match progress.header with
  | none => .error (.malformed line .noProblemLine)
  | some header =>
    if !progress.current.isEmpty then .error (.malformed line .unterminatedClause)
    else if progress.clauses.length ≠ header.numClauses then
      .error (.malformed line (.clauseCount header.numClauses progress.clauses.length))
    else .ok ⟨progress.clauses.reverse, header.numVars⟩

/-- Reads lines, the first of which has the number after the given one. A stream that breaks off is
refused once its lines have been read. -/
def readFrom (broken : Option FileFault) (line : Nat) (progress : Progress) :
    List (List Char) → Except ReadFault Problem
  | [] =>
    match broken with
    | some fault => .error (.file fault)
    | none => finish line progress
  | text :: rest =>
    match readLine (line + 1) progress text with
    | .error fault => .error fault
    | .ok .stop => finish (line + 1) progress
    | .ok (.proceed next) => readFrom broken (line + 1) next rest

/-- Reads a clause file given as lines. -/
def parse (lines : List String) : Except ReadFault Problem :=
  readFrom none 0 .start (lines.map String.toList)

/-- Reads a clause file given as what opening it came to. -/
def readSource : Except FileFault (Text.LineSource FileFault) → Except ReadFault Problem
  | .error fault => .error (.file fault)
  | .ok source => readFrom source.broken 0 .start source.lines

/-- Reads the clause file at a path. -/
def read (files : Files) (path : String) : Except ReadFault Problem :=
  readSource (files.lines path)

end Dimacs

end Clausal
