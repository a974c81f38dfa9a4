/-!
# Reading rows with commas

A text of rows, one a line, as lists of cells. A cell that starts with a quote goes on to the next quote
that is not doubled, and may hold commas and line ends; a quote elsewhere is an ordinary character. Lines
end with a line feed, a carriage return, or both in that order. Lines of blanks are no rows, but count
where lines are numbered. A byte order mark in front of the text is passed over, and a cell ends before
the first NUL character in it.

The first two rows set the width of a text: a row that has fewer cells than the longer of them is filled
up with empty ones, and a row that has more is refused. Only the first row may stay shorter.
-/

namespace Clausal.Csv

/-- Why a text is not a text of rows. -/
inductive Fault where
  /-- A line has more cells than the rows before it. -/
  | tooManyCells (width line found : Nat)
  /-- A quote is never closed; so many lines stand before its row. -/
  | unclosedQuote (lines : Nat)
deriving DecidableEq

namespace Fault

/-- The sentence that reports a fault. -/
def message : Fault → String
  | tooManyCells width line found =>
    s!"Error tokenizing data. C error: Expected {width} fields in line {line}, saw {found}\n"
  | unclosedQuote lines =>
    s!"Error tokenizing data. C error: EOF inside string starting at row {lines}"

end Fault

/-- Where in a cell the reader is. -/
inductive Spot where
  /-- Before the first character. -/
  | before
  /-- In a cell without quotes, or after the quotes of one that had them. -/
  | plain
  /-- Between the quotes. -/
  | quoted
  /-- After a quote between the quotes. -/
  | closing
deriving DecidableEq

/-- A row with the number of its line, counted from one. -/
structure Line where
  /-- The number of the line. -/
  number : Nat
  /-- The cells of the row. -/
  cells : List String

/-- The rows of a text, and, if its last quote is never closed, the number of lines before that row. -/
structure Cut where
  /-- The rows. -/
  lines : List Line
  /-- The lines before a row that is cut off. -/
  unclosed : Option Nat

/-- A row under way. -/
structure Pending where
  /-- The cells so far, latest first. -/
  cells : List String
  /-- The characters of the cell under way, latest first. -/
  cell : List Char
  /-- Whether the row has had a quoted cell. -/
  hadQuotes : Bool

/-- The character that ends a cell wherever it stands. -/
def nul : Char := Char.ofNat 0

namespace Pending

/-- Nothing of the row has been read. -/
def start : Pending := ⟨[], [], false⟩

/-- The row with one more character. -/
def push (row : Pending) (character : Char) : Pending :=
  { row with cell := character :: row.cell }

/-- The row with its cell ended. -/
def endCell (row : Pending) : Pending :=
  { row with cells := String.ofList (row.cell.reverse.takeWhile (· != nul)) :: row.cells, cell := [] }

/-- Only blanks have been read. -/
def isBlank (row : Pending) : Bool :=
  row.cells.isEmpty && !row.hadQuotes && row.cell.all fun character =>
    character = ' ' || character = '\t'

/-- The row, which ends after so many lines, in front of further rows, unless it is a line of blanks. -/
def close (row : Pending) (passed : Nat) (rest : Cut) : Cut :=
  if row.isBlank then rest
  else { rest with lines := ⟨passed + 1, row.endCell.cells.reverse⟩ :: rest.lines }

end Pending

/-- The rows of the characters that are left; so many lines have been passed. -/
def cutFrom (spot : Spot) (passed : Nat) (row : Pending) : List Char → Cut
  | [] => if spot = .quoted then ⟨[], some passed⟩ else row.close passed ⟨[], none⟩
  | '\r' :: '\n' :: rest =>
    if spot = .quoted then cutFrom .quoted passed ((row.push '\r').push '\n') rest
    else row.close passed (cutFrom .before (passed + 1) .start rest)
  | character :: rest =>
    match spot with
    | .quoted =>
      if character = '"' then cutFrom .closing passed row rest
      else cutFrom .quoted passed (row.push character) rest
    | _ =>
      if character = '\n' || character = '\r' then
        row.close passed (cutFrom .before (passed + 1) .start rest)
      else if character = ',' then cutFrom .before passed row.endCell rest
      else if character = '"' && spot = .before then
        cutFrom .quoted passed { row with hadQuotes := true } rest
      else if character = '"' && spot = .closing then
        cutFrom .quoted passed (row.push character) rest
      else cutFrom .plain passed (row.push character) rest

/-- Cells with empty ones behind them, up to a width. -/
def fillUp (width : Nat) (cells : List String) : List String :=
  cells ++ List.replicate (width - cells.length) ""

/-- The cells of a line at a width. -/
def aligned (width : Nat) (line : Line) : Except Fault (List String) :=
  if width < line.cells.length then
    .error (.tooManyCells width line.number line.cells.length)
  else .ok (fillUp width line.cells)

/-- The rows at the width that the first two of them set. -/
def align : List Line → Except Fault (List (List String))
  | [] => .ok []
  | [header] => .ok [header.cells]
  | header :: first :: rest => do
    let width := max header.cells.length first.cells.length
    let others ← rest.mapM (aligned width)
    return header.cells :: fillUp width first.cells :: others

/-- The characters without a byte order mark in front. -/
def withoutMark : List Char → List Char
  | [] => []
  | first :: rest => if first.toNat = 0xfeff then rest else first :: rest

/-- The rows of a text. -/
def parse (text : String) : Except Fault (List (List String)) := do
  let cut := cutFrom .before 0 .start (withoutMark text.toList)
  let rows ← align cut.lines
  match cut.unclosed with
  | none => return rows
  | some passed => throw (.unclosedQuote passed)

end Clausal.Csv
