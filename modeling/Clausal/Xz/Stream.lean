import Clausal.Xz.Block

/-!
# Streams

A stream is a header, blocks, an index that lists the sizes of all blocks, and a footer that repeats what
the header says and gives the size of the index. Header, index and footer have check sums.
-/

namespace Clausal.Xz.Stream

/-- The bytes that every stream starts with. -/
def magic : List UInt8 := [0xFD, 0x37, 0x7A, 0x58, 0x5A, 0x00]

/-- The bytes that every stream ends with. -/
def endMagic : List UInt8 := [0x59, 0x5A]

/-- The check that the flags of a stream name. -/
def checkOf (flags : List UInt8) : Reading Check :=
  match flags with
  | [0, number] => if number < 16 then pure ⟨number.toNat⟩ else Reading.refuse .options
  | _ => Reading.refuse .options

/-- Reads the header of a stream; all of it has to be there before any of it is judged. -/
def header : Reading Check := do
  let bytes ← Reading.bytes 12
  let flags := (bytes.drop 6).take 2
  Reading.require .format (bytes.take 6 = magic)
  Reading.require .data (littleEndian (bytes.drop 8) = (sum32 flags).toNat)
  checkOf flags

/-- Reads the sizes of blocks, which have to be the given ones. -/
def records : List Record → Reading Unit
  | [] => pure ()
  | record :: rest => do
    let packedSize ← Reading.number
    let size ← Reading.number
    Reading.require .data (record = ⟨packedSize, size⟩)
    records rest

/-- Reads the index without its check sum. -/
def indexBody (expected : List Record) : Reading Unit := do
  let before ← get
  Reading.require .data ((← Reading.byte) = 0)
  let count ← Reading.number
  Reading.require .data (count = expected.length)
  records expected
  let after ← get
  Block.zeros (Block.padding (before.length - after.length))

/-- Reads the index, and gives its size. -/
def index (expected : List Record) : Reading Nat := do
  let before ← get
  indexBody expected
  let after ← get
  let size := before.length - after.length
  let sum ← Reading.bytes 4
  Reading.require .data (littleEndian sum = (sum32 (before.take size)).toNat)
  return size + 4

/-- Reads the footer; all of it has to be there before any of it is judged. -/
def footer (check : Check) (indexSize : Nat) : Reading Unit := do
  let bytes ← Reading.bytes 12
  let guarded := (bytes.drop 4).take 6
  Reading.require .data (bytes.drop 10 = endMagic)
  Reading.require .data (littleEndian (bytes.take 4) = (sum32 guarded).toNat)
  let repeated ← checkOf (guarded.drop 4)
  Reading.require .data (indexSize = 4 * (littleEndian (guarded.take 4) + 1))
  Reading.require .data (repeated = check)

/-- Unpacks at most so many blocks and reads what follows them, after blocks of the given sizes, the
latest first, which gave the given bytes. A zero stands where the index begins. -/
def blocks (check : Check) : Nat → List Record → Array UInt8 → List UInt8 → Unpacked
  | 0, _, bytes, _ => ⟨bytes, .stopped .cut⟩
  | _, _, bytes, [] => ⟨bytes, .stopped .cut⟩
  | fuel + 1, done, bytes, first :: rest =>
    if first = 0 then
      ⟨bytes, match (index done.reverse >>= footer check) (first :: rest) with
        | .error stop => .stopped stop
        | .ok (_, rest) => .finished rest⟩
    else
      let (unpacked, record) := Block.unpack check (first :: rest)
      match unpacked.ending with
      | .stopped stop => ⟨bytes ++ unpacked.bytes, .stopped stop⟩
      | .finished rest => blocks check fuel (record :: done) (bytes ++ unpacked.bytes) rest

/-- Unpacks a stream. Every block takes at least one byte. -/
def unpack (source : List UInt8) : Unpacked :=
  match header source with
  | .error stop => ⟨#[], .stopped stop⟩
  | .ok (check, rest) => blocks check (source.length + 1) [] #[] rest

end Clausal.Xz.Stream
