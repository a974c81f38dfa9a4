import Clausal.Decimal.Reading
import Clausal.Json.Value

/-!
# Reading documents

A text is cut into tokens and the tokens are read by descent. Beside the standard forms the three
words for infinities and for what is no number are accepted. Control characters inside quotes are
refused. A whole number may have any size up to a limit on its digits, which is a refusal of its own, and
so is a document inside too many others.
-/

namespace Clausal.Json

open Decimal (digitsValue doubleOf exponentPart infinity)

/-- Why a text is not a document. -/
inductive ReadFault where
  /-- The text is not well formed. -/
  | malformed
  /-- A whole number has too many digits. -/
  | tooManyDigits (digits : Nat)
  /-- A list or an object is inside too many others. -/
  | tooDeep (isObject : Bool)
deriving DecidableEq

/-- The largest number of digits that a whole number may have. -/
def digitLimit : Nat := 4300

/-- The largest number of lists and objects inside each other. -/
def depthLimit : Nat := 988

/-- A piece of a text. -/
inductive Token where
  /-- One of the six marks. -/
  | mark (character : Char)
  /-- A value that is complete in itself. -/
  | scalar (value : Json)
  /-- A text between quotes, which is a value or the name of a field. -/
  | quoted (text : String)

/-- The value of a hexadecimal digit. -/
def hexValue? (character : Char) : Option Nat :=
  if '0' ≤ character ∧ character ≤ '9' then some (character.toNat - '0'.toNat)
  else if 'a' ≤ character ∧ character ≤ 'f' then some (character.toNat - 'a'.toNat + 10)
  else if 'A' ≤ character ∧ character ≤ 'F' then some (character.toNat - 'A'.toNat + 10)
  else none

/-- The unit of four hexadecimal digits. -/
def unit? (first second third fourth : Char) : Option Nat := do
  let a ← hexValue? first
  let b ← hexValue? second
  let c ← hexValue? third
  let d ← hexValue? fourth
  return ((a * 16 + b) * 16 + c) * 16 + d

/-- The character of an escape by one letter. -/
def letterEscape? (letter : Char) : Option Char :=
  match letter with
  | '"' => some '"'
  | '\\' => some '\\'
  | '/' => some '/'
  | 'b' => some (Char.ofNat 8)
  | 'f' => some (Char.ofNat 12)
  | 'n' => some '\n'
  | 'r' => some '\r'
  | 't' => some '\t'
  | _ => none

/-- The two halves of a UTF-16 pair as one code. -/
def joinHalves (high low : Nat) : Nat :=
  0x10000 + (high - 0xD800) * 0x400 + (low - 0xDC00)

/-- The character of a code; a half without its partner becomes the replacement character. -/
def unitCharacter (code : Nat) : Char :=
  if 0xD800 ≤ code ∧ code < 0xE000 then Char.ofNat 0xFFFD else Char.ofNat code

/-- One character of a quoted text, with what follows it. -/
inductive Piece where
  /-- The closing quote. -/
  | close (rest : List Char)
  /-- A character. -/
  | character (value : Char) (rest : List Char)
  /-- No character can be read. -/
  | none

/-- Reads one character of a quoted text. -/
def piece : List Char → Piece
  | '"' :: rest => .close rest
  | '\\' :: 'u' :: a :: b :: c :: d :: rest =>
    match unit? a b c d with
    | .none => .none
    | .some high =>
      match rest with
      | '\\' :: 'u' :: e :: f :: g :: h :: after =>
        match unit? e f g h with
        | .some low =>
          if 0xD800 ≤ high ∧ high < 0xDC00 ∧ 0xDC00 ≤ low ∧ low < 0xE000 then
            .character (Char.ofNat (joinHalves high low)) after
          else .character (unitCharacter high) rest
        | .none => .character (unitCharacter high) rest
      | _ => .character (unitCharacter high) rest
  | '\\' :: letter :: rest =>
    match letterEscape? letter with
    | .some character => .character character rest
    | .none => .none
  | character :: rest => if character.toNat < 32 then .none else .character character rest
  | [] => .none

/-- Reads up to the closing quote; each round takes at least one character. -/
def quotedText : Nat → List Char → List Char → Option (String × List Char)
  | 0, _, _ => .none
  | fuel + 1, gathered, given =>
    match piece given with
    | .close rest => .some (String.ofList gathered.reverse, rest)
    | .character value rest => quotedText fuel (value :: gathered) rest
    | .none => .none

/-- The digits after a point, and what follows; a point without digits is none. -/
def fractionPart (given : List Char) : Option (List Char × List Char) :=
  match given with
  | '.' :: rest =>
    let digits := rest.takeWhile Char.isDigit
    if digits.isEmpty then .none else .some (digits, rest.dropWhile Char.isDigit)
  | _ => .none

/-- The digits before a point, a zero standing alone, and what follows. -/
def wholePart (given : List Char) : List Char × List Char :=
  match given with
  | '0' :: rest => (['0'], rest)
  | _ => (given.takeWhile Char.isDigit, given.dropWhile Char.isDigit)

/-- Reads the number after its sign. -/
def numberToken (negative : Bool) (given : List Char) :
    Except ReadFault (Json × List Char) :=
  let (whole, afterWhole) := wholePart given
  if whole.isEmpty then .error .malformed
  else
    let fraction := fractionPart afterWhole
    let afterFraction := (fraction.map (·.2)).getD afterWhole
    let exponent := exponentPart afterFraction
    let rest := (exponent.map (·.2)).getD afterFraction
    match fraction, exponent with
    | .none, .none =>
      if digitLimit < whole.length then .error (.tooManyDigits whole.length)
      else
        let value : Int := digitsValue whole
        .ok (ofInt (if negative then -value else value), rest)
    | _, _ =>
      let places := (fraction.map (·.1)).getD []
      let power := (exponent.map (·.1)).getD 0
      .ok (ofFloat (doubleOf negative (whole ++ places) (power - places.length)), rest)

/-- Words that are values. -/
def words : List (List Char × Json) :=
  [("null".toList, null), ("true".toList, bool true), ("false".toList, bool false),
    ("NaN".toList, ofFloat (0.0 / 0.0)),
    ("Infinity".toList, ofFloat (infinity false)),
    ("-Infinity".toList, ofFloat (infinity true))]

/-- The word at the start of a text, with what follows. -/
def wordToken? (given : List Char) : Option (Json × List Char) :=
  (words.find? fun word => word.1.isPrefixOf given).map fun word =>
    (word.2, given.drop word.1.length)

/-- Reads one token; blanks have been taken off. -/
def token (given : List Char) : Except ReadFault (Token × List Char) :=
  match given with
  | [] => .error .malformed
  | '"' :: rest =>
    match quotedText (rest.length + 1) [] rest with
    | .none => .error .malformed
    | .some (text, after) => .ok (.quoted text, after)
  | character :: rest =>
    if character ∈ ['[', ']', '\x7b', '\x7d', ',', ':'] then .ok (.mark character, rest)
    else match wordToken? given with
      | .some (value, after) => .ok (.scalar value, after)
      | .none =>
        let (negative, body) := if character = '-' then (true, rest) else (false, given)
        (numberToken negative body).map fun (value, after) => (.scalar value, after)

/-- Blanks between tokens. -/
def isSpace (character : Char) : Bool :=
  character = ' ' || character = '\t' || character = '\n' || character = '\r'

/-- Cuts a text into tokens; each round takes at least one character. A fault ends the list, and is
met only by a reader that comes so far. -/
def tokens : Nat → List Char → List (Except ReadFault Token)
  | 0, _ => []
  | fuel + 1, given =>
    match given.dropWhile isSpace with
    | [] => []
    | rest =>
      match token rest with
      | .error fault => [.error fault]
      | .ok (read, after) => .ok read :: tokens fuel after

/-- The tokens still to be read. -/
abbrev Stream := List (Except ReadFault Token)

mutual

/-- Reads one document, which may hold so many lists and objects inside each other. -/
def value : Nat → Nat → Stream → Except ReadFault (Json × Stream)
  | 0, _, _ => .error .malformed
  | fuel + 1, depth, stream =>
    match stream with
    | [] => .error .malformed
    | .error fault :: _ => .error fault
    | .ok (.scalar value) :: rest => .ok (value, rest)
    | .ok (.quoted text) :: rest => .ok (string text, rest)
    | .ok (.mark '[') :: rest =>
      match depth, rest with
      | 0, _ => .error (.tooDeep false)
      | _, .ok (.mark ']') :: after => .ok (array [], after)
      | depth + 1, _ => items fuel depth [] rest
    | .ok (.mark '\x7b') :: rest =>
      match depth, rest with
      | 0, _ => .error (.tooDeep true)
      | _, .ok (.mark '\x7d') :: after => .ok (object [], after)
      | depth + 1, _ => members fuel depth [] rest
    | .ok (.mark _) :: _ => .error .malformed

/-- Reads the items of an array, the first of them next. -/
def items : Nat → Nat → List Json → Stream → Except ReadFault (Json × Stream)
  | 0, _, _, _ => .error .malformed
  | fuel + 1, depth, gathered, stream =>
    match value fuel depth stream with
    | .error fault => .error fault
    | .ok (item, rest) =>
      match rest with
      | .ok (.mark ',') :: more => items fuel depth (item :: gathered) more
      | .ok (.mark ']') :: more => .ok (array (item :: gathered).reverse, more)
      | .error fault :: _ => .error fault
      | _ => .error .malformed

/-- Reads the fields of an object, the first of them next. -/
def members : Nat → Nat → List (String × Json) → Stream → Except ReadFault (Json × Stream)
  | 0, _, _, _ => .error .malformed
  | fuel + 1, depth, gathered, stream =>
    match stream with
    | .ok (.quoted key) :: .ok (.mark ':') :: afterKey =>
      match value fuel depth afterKey with
      | .error fault => .error fault
      | .ok (item, rest) =>
        let fields := Named.update key item gathered
        match rest with
        | .ok (.mark ',') :: more => members fuel depth fields more
        | .ok (.mark '\x7d') :: more => .ok (object fields, more)
        | .error fault :: _ => .error fault
        | _ => .error .malformed
    | .ok (.quoted _) :: .error fault :: _ => .error fault
    | .error fault :: _ => .error fault
    | _ => .error .malformed

end

/-- Reads a text that holds one document and nothing else but blanks. -/
def parse (text : String) : Except ReadFault Json :=
  let characters := text.toList
  let stream := tokens (characters.length + 1) characters
  match value (2 * stream.length + 2) depthLimit stream with
  | .error fault => .error fault
  | .ok (document, []) => .ok document
  | .ok (_, _) => .error .malformed

end Clausal.Json
