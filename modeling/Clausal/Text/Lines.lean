import Clausal.Text.Utf8

/-!
# Lines of a byte stream

A stream is read in blocks of a fixed size. Lines end with a line feed, a carriage return, or both in
that order. A reader that takes line after line gets every line that was complete before a fault was
met, and the fault when it asks for the next one. Bytes that are not UTF-8 are a fault, and the stream
itself may end with one.
-/

namespace Clausal.Text

/-- The lines of a stream, and the fault that ends it, if one does. -/
structure LineSource (Fault : Type) where
  /-- The lines that can be read. -/
  lines : List (List Char)
  /-- The fault met by a reader that has taken all of them. -/
  broken : Option Fault

/-- The number of bytes in a block. -/
def blockSize : Nat := 8192

/-- The complete lines of the characters so far, and what follows the last of them. A carriage return
at the very end is left undecided unless nothing can follow. The line under way is given with its latest
character first. -/
def splitLines (final : Bool) (gathered : List Char) : List Char → List (List Char) × List Char
  | [] => ([], gathered.reverse)
  | ['\r'] => if final then ([gathered.reverse], []) else ([], (('\r') :: gathered).reverse)
  | '\r' :: '\n' :: rest =>
    let (lines, remainder) := splitLines final [] rest
    (gathered.reverse :: lines, remainder)
  | character :: rest =>
    if character = '\n' ∨ character = '\r' then
      let (lines, remainder) := splitLines final [] rest
      (gathered.reverse :: lines, remainder)
    else splitLines final (character :: gathered) rest

/-- The bytes in blocks; the fuel is their number. -/
def blocks : Nat → List UInt8 → List (List UInt8)
  | 0, _ => []
  | _, [] => []
  | fuel + 1, bytes => bytes.take blockSize :: blocks fuel (bytes.drop blockSize)

/-- The lines of the blocks still to be read, after bytes that wait for their continuation and
characters of a line that is not complete. The stream may end with a fault, in which case nothing comes
of the line under way. -/
def linesFrom {Fault : Type} (notUtf8 : Utf8Error → Fault) (ending : Option Fault) (waiting : List UInt8)
    (partialLine : List Char) : List (List UInt8) → LineSource Fault
  | [] =>
    match ending, decodeBlock true waiting with
    | some fault, _ => ⟨[], some fault⟩
    | none, .error error => ⟨[], some (notUtf8 error)⟩
    | none, .ok decoded =>
      let (lines, remainder) := splitLines true [] (partialLine ++ decoded.characters)
      ⟨lines ++ (if remainder.isEmpty then [] else [remainder]), none⟩
  | block :: rest =>
    match decodeBlock false (waiting ++ block) with
    | .error error => ⟨[], some (notUtf8 error)⟩
    | .ok decoded =>
      let (lines, remainder) := splitLines false [] (partialLine ++ decoded.characters)
      let later := linesFrom notUtf8 ending decoded.waiting remainder rest
      { later with lines := lines ++ later.lines }

/-- The lines of a stream that comes in blocks and may end with a fault. -/
def linesOfBlocks {Fault : Type} (notUtf8 : Utf8Error → Fault) (ending : Option Fault)
    (blocks : List (List UInt8)) : LineSource Fault :=
  linesFrom notUtf8 ending [] [] blocks

end Clausal.Text
