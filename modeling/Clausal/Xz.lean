import Clausal.Text.Lines
import Clausal.Xz.Bare
import Clausal.Xz.Stream

/-!
# Packed files

A packed file holds one stream or several, one after another, of the form that its first byte tells. It is
unpacked block by block, so a reader gets what comes before a fault: everything before bytes that end too
early, and the blocks before the one in which bytes turn out wrong. What follows the first stream and goes
wrong in its first block is passed over.
-/

namespace Clausal.Xz

/-- Unpacks one stream. -/
def unpackOne : List UInt8 → Unpacked
  | [] => ⟨#[], .stopped .cut⟩
  | first :: rest =>
    if first = 0xFD then Stream.unpack (first :: rest)
    else if first = 0x4C then Member.unpack (first :: rest)
    else Bare.unpack (first :: rest)

/-- What a reader gets of a packed file. -/
structure Contents where
  /-- The unpacked bytes in blocks. -/
  blocks : List (List UInt8)
  /-- Why there are no more, if something is wrong. -/
  stop : Option Stop

namespace Contents

/-- Bytes in blocks. -/
def inBlocks (bytes : Array UInt8) : List (List UInt8) :=
  Text.blocks bytes.size bytes.toList

/-- Unpacks at most so many streams. -/
def unpackWithin : Nat → Bool → List UInt8 → Contents
  | 0, _, _ => ⟨[], none⟩
  | fuel + 1, isFirst, source =>
    if source.isEmpty && !isFirst then ⟨[], none⟩
    else
      let unpacked := unpackOne source
      let found := inBlocks unpacked.bytes
      match unpacked.ending with
      | .finished rest =>
        let later := unpackWithin fuel false rest
        { later with blocks := found ++ later.blocks }
      | .stopped .cut => ⟨found, some .cut⟩
      | .stopped stop =>
        let kept := found.dropLast
        ⟨kept, if kept.isEmpty && !isFirst then none else some stop⟩

/-- Unpacks a file. Every stream takes at least one byte. -/
def unpack (source : List UInt8) : Contents :=
  unpackWithin (source.length + 1) true source

end Contents

end Clausal.Xz
