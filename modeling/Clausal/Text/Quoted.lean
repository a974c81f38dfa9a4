import Clausal.Text.Printable

/-!
# Texts in quotes

A text is shown in single quotes, or in double quotes when it holds a single quote and no double one.
The quote in use and the backslash are escaped, as is every character that cannot be shown as it is.
-/

namespace Clausal.Text

/-- A code as hexadecimal digits, filled up with zeros to a width. -/
def hexDigits (width code : Nat) : List Char :=
  let digits := Nat.toDigits 16 code
  List.replicate (width - digits.length) '0' ++ digits

/-- A character as it stands between the given quotes. -/
def shown (quote character : Char) : List Char :=
  let code := character.toNat
  if character = quote ∨ character = '\\' then ['\\', character]
  else if character = '\n' then ['\\', 'n']
  else if character = '\r' then ['\\', 'r']
  else if character = '\t' then ['\\', 't']
  else if isPrintable character then [character]
  else if code < 0x100 then '\\' :: 'x' :: hexDigits 2 code
  else if code < 0x10000 then '\\' :: 'u' :: hexDigits 4 code
  else '\\' :: 'U' :: hexDigits 8 code

/-- The single quote. -/
def singleQuote : Char := Char.ofNat 39

/-- The double quote. -/
def doubleQuote : Char := Char.ofNat 34

/-- The quote that a text is shown in. -/
def quoteFor (characters : List Char) : Char :=
  if characters.contains singleQuote && !characters.contains doubleQuote then doubleQuote
  else singleQuote

/-- A text in quotes. -/
def quoted (text : String) : String :=
  let characters := text.toList
  let quote := quoteFor characters
  String.ofList (quote :: characters.flatMap (shown quote) ++ [quote])

end Clausal.Text
