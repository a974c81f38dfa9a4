/-!
# Rows with commas

Rows of cells written one a line. A cell that holds a comma, a quote or a line end is put between
quotes, and quotes inside it are doubled. A row of one empty cell is written as an empty cell between
quotes, so that it differs from a row without cells.
-/

namespace Clausal.Csv

/-- The character makes quotes necessary. -/
def needsQuotes (character : Char) : Bool :=
  character = ',' || character = '"' || character = '\r' || character = '\n'

/-- A character between quotes. -/
def doubled (character : Char) : List Char :=
  if character = '"' then ['"', '"'] else [character]

/-- The text of a cell, between quotes if need be. -/
def encode (content : String) : String :=
  let characters := content.toList
  if characters.any needsQuotes then
    String.ofList ('"' :: characters.flatMap doubled ++ ['"'])
  else content

/-- A row of cells in writing, with its line end. -/
def line (cells : List String) : String :=
  let written := ",".intercalate (cells.map encode)
  (if !cells.isEmpty && written.isEmpty then "\"\"" else written) ++ "\r\n"

end Clausal.Csv
