/-!
# Columns

Texts filled up with blanks to the width of a column, counted in characters. A text that is wider than
its column is left as it is.
-/

namespace Clausal.Text

/-- The blanks missing to a width. -/
def missing (width : Nat) (text : String) : String :=
  String.ofList (List.replicate (width - text.length) ' ')

/-- The text at the left of its column. -/
def padRight (width : Nat) (text : String) : String :=
  text ++ missing width text

/-- The text at the right of its column. -/
def padLeft (width : Nat) (text : String) : String :=
  missing width text ++ text

end Clausal.Text
