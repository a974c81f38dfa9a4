import Clausal.Json.Value

/-!
# Writing documents

Documents are written over several lines, two blanks for each level of nesting, or on one line, with
every character outside printable ASCII escaped. A character beyond the first 65536 is escaped as the two halves of
its UTF-16 form.
-/

namespace Clausal.Json

/-- A number below 65536 as four hexadecimal digits. -/
def hex4 (code : Nat) : List Char :=
  let digits := (Nat.toDigits 16 code)
  List.replicate (4 - digits.length) '0' ++ digits

/-- One escaped unit. -/
def unicodeEscape (code : Nat) : List Char :=
  '\\' :: 'u' :: hex4 code

/-- A character as it stands inside quotes. -/
def escaped (character : Char) : List Char :=
  let code := character.toNat
  if character = '"' then ['\\', '"']
  else if character = '\\' then ['\\', '\\']
  else if character = '\n' then ['\\', 'n']
  else if character = '\r' then ['\\', 'r']
  else if character = '\t' then ['\\', 't']
  else if code = 8 then ['\\', 'b']
  else if code = 12 then ['\\', 'f']
  else if 32 ≤ code ∧ code ≤ 126 then [character]
  else if code < 0x10000 then unicodeEscape code
  else
    let offset := code - 0x10000
    unicodeEscape (0xD800 + offset / 0x400) ++ unicodeEscape (0xDC00 + offset % 0x400)

/-- A text between quotes. -/
def quoted (text : String) : String :=
  "\"" ++ String.ofList (text.toList.flatMap escaped) ++ "\""

/-- A number in a document. -/
def numberText : Number → String
  | .whole value => toString value
  | .real value => Decimal.shortest Decimal.document value

/-- The start of a line at a level of nesting. -/
def newline (depth : Nat) : String :=
  "\n" ++ String.ofList (List.replicate (2 * depth) ' ')

mutual

/-- A document at a level of nesting. -/
def renderAt (depth : Nat) : Json → String
  | null => "null"
  | bool value => if value then "true" else "false"
  | number value => numberText value
  | string value => quoted value
  | array [] => "[]"
  | array (first :: rest) =>
    "[" ++ newline (depth + 1) ++ renderAt (depth + 1) first ++ renderItems (depth + 1) rest ++
      newline depth ++ "]"
  | object [] => "\x7b\x7d"
  | object ((key, value) :: rest) =>
    "\x7b" ++ newline (depth + 1) ++ quoted key ++ ": " ++ renderAt (depth + 1) value ++
      renderFields (depth + 1) rest ++ newline depth ++ "\x7d"

/-- The further items of an array. -/
def renderItems (depth : Nat) : List Json → String
  | [] => ""
  | item :: rest => "," ++ newline depth ++ renderAt depth item ++ renderItems depth rest

/-- The further fields of an object. -/
def renderFields (depth : Nat) : List (String × Json) → String
  | [] => ""
  | (key, value) :: rest =>
    "," ++ newline depth ++ quoted key ++ ": " ++ renderAt depth value ++ renderFields depth rest

end

/-- A document as a text. -/
def render (document : Json) : String :=
  renderAt 0 document

mutual

/-- A document on one line, behind what is written already. -/
def lineAfter (written : String) : Json → String
  | null => written ++ "null"
  | bool value => written ++ if value then "true" else "false"
  | number value => written ++ numberText value
  | string value => written ++ quoted value
  | array [] => written ++ "[]"
  | array (first :: rest) => itemsAfter (lineAfter (written ++ "[") first) rest ++ "]"
  | object [] => written ++ "\x7b\x7d"
  | object ((key, value) :: rest) =>
    fieldsAfter (lineAfter (written ++ "\x7b" ++ quoted key ++ ": ") value) rest ++ "\x7d"

/-- The further items of an array on one line. -/
def itemsAfter (written : String) : List Json → String
  | [] => written
  | item :: rest => itemsAfter (lineAfter (written ++ ", ") item) rest

/-- The further fields of an object on one line. -/
def fieldsAfter (written : String) : List (String × Json) → String
  | [] => written
  | (key, value) :: rest =>
    fieldsAfter (lineAfter (written ++ ", " ++ quoted key ++ ": ") value) rest

end

/-- A document on one line. -/
def line (document : Json) : String :=
  lineAfter "" document

end Clausal.Json
