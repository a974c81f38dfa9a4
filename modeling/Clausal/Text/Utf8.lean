/-!
# Reading UTF-8

Bytes are read as UTF-8, strictly. A sequence that cannot be completed is told apart from one that
merely has not been completed yet, because bytes arrive in blocks: an unfinished sequence at the end of
a block waits for the next one, and is an error only at the end of everything.

An error names the bytes it is about by their positions in the block they were read with.
-/

namespace Clausal.Text

/-- Why bytes are not UTF-8. -/
inductive Utf8Cause where
  /-- No sequence starts with this byte. -/
  | invalidStart
  /-- A byte inside a sequence is out of range. -/
  | invalidContinuation
  /-- The bytes end inside a sequence. -/
  | unexpectedEnd
deriving DecidableEq

/-- An error of reading UTF-8. -/
structure Utf8Error where
  /-- The position of the first byte of the sequence. -/
  position : Nat
  /-- How many bytes the error is about. -/
  length : Nat
  /-- The first byte of the sequence. -/
  byte : UInt8
  /-- What is wrong. -/
  cause : Utf8Cause
deriving DecidableEq

/-- The reading of one sequence. -/
inductive Utf8Step where
  /-- A character, the number of its bytes, and the bytes after it. -/
  | character (value : Char) (length : Nat) (rest : List UInt8)
  /-- The bytes end inside the sequence. -/
  | unfinished
  /-- The sequence is wrong, its first bytes excepted. -/
  | wrong (length : Nat) (cause : Utf8Cause)

/-- The byte can stand inside a sequence. -/
def isContinuation (byte : UInt8) : Bool :=
  0x80 ≤ byte && byte ≤ 0xBF

/-- The six bits that a byte inside a sequence carries. -/
def payload (byte : UInt8) : Nat :=
  byte.toNat % 64

/-- The second byte can follow the first: no longer form than needed, no surrogates, nothing past the
last code point. -/
def mayFollow (first second : UInt8) : Bool :=
  isContinuation second &&
    (if first = 0xE0 then 0xA0 ≤ second
      else if first = 0xED then second < 0xA0
      else if first = 0xF0 then 0x90 ≤ second
      else if first = 0xF4 then second < 0x90
      else true)

/-- Reads a sequence of two bytes. -/
def step2 (first : UInt8) (rest : List UInt8) : Utf8Step :=
  match rest with
  | [] => .unfinished
  | second :: after =>
    if isContinuation second then
      .character (Char.ofNat ((first.toNat % 32) * 64 + payload second)) 2 after
    else .wrong 1 .invalidContinuation

/-- Reads a sequence of three bytes. -/
def step3 (first : UInt8) (rest : List UInt8) : Utf8Step :=
  match rest with
  | [] => .unfinished
  | second :: more =>
    if !mayFollow first second then .wrong 1 .invalidContinuation
    else match more with
      | [] => .unfinished
      | third :: after =>
        if isContinuation third then
          .character
            (Char.ofNat (((first.toNat % 16) * 64 + payload second) * 64 + payload third)) 3 after
        else .wrong 2 .invalidContinuation

/-- Reads a sequence of four bytes. -/
def step4 (first : UInt8) (rest : List UInt8) : Utf8Step :=
  match rest with
  | [] => .unfinished
  | second :: more =>
    if !mayFollow first second then .wrong 1 .invalidContinuation
    else match more with
      | [] => .unfinished
      | third :: last =>
        if !isContinuation third then .wrong 2 .invalidContinuation
        else match last with
          | [] => .unfinished
          | fourth :: after =>
            if isContinuation fourth then
              .character (Char.ofNat ((((first.toNat % 8) * 64 + payload second) * 64 +
                payload third) * 64 + payload fourth)) 4 after
            else .wrong 3 .invalidContinuation

/-- Reads one sequence from its first byte and the bytes after it. -/
def utf8Step (first : UInt8) (rest : List UInt8) : Utf8Step :=
  if first < 0x80 then .character (Char.ofNat first.toNat) 1 rest
  else if first < 0xC2 then .wrong 1 .invalidStart
  else if first < 0xE0 then step2 first rest
  else if first < 0xF0 then step3 first rest
  else if first < 0xF5 then step4 first rest
  else .wrong 1 .invalidStart

/-- A two-byte form that a block may end with: the start of a surrogate is kept back until its third
byte arrives. -/
def isCutSurrogate (first : UInt8) (rest : List UInt8) : Bool :=
  match rest with
  | [second] => first = 0xED && 0xA0 ≤ second && second ≤ 0xBF
  | _ => false

/-- What came of a block. -/
structure Decoded where
  /-- The characters. -/
  characters : List Char
  /-- The bytes at the end that wait for the next block. -/
  waiting : List UInt8
deriving DecidableEq

/-- Reads a block, which starts at the given position. The fuel is the number of bytes; each sequence
takes at least one. -/
def decodeFrom (final : Bool) : Nat → Nat → List UInt8 → Except Utf8Error Decoded
  | 0, _, bytes => .ok ⟨[], bytes⟩
  | _, _, [] => .ok ⟨[], []⟩
  | fuel + 1, position, first :: rest =>
    match utf8Step first rest with
    | .character value length after =>
      (decodeFrom final fuel (position + length) after).map fun decoded =>
        { decoded with characters := value :: decoded.characters }
    | .unfinished =>
      if final then .error ⟨position, rest.length + 1, first, .unexpectedEnd⟩
      else .ok ⟨[], first :: rest⟩
    | .wrong length cause =>
      if !final && isCutSurrogate first rest then .ok ⟨[], first :: rest⟩
      else .error ⟨position, length, first, cause⟩

/-- Reads a block; only a final one may not end inside a sequence. -/
def decodeBlock (final : Bool) (bytes : List UInt8) : Except Utf8Error Decoded :=
  decodeFrom final bytes.length 0 bytes

end Clausal.Text
