import Clausal.Xz.Checksum
import Clausal.Xz.Chunk
import Clausal.Xz.Digest
import Clausal.Xz.Filter

/-!
# Blocks

A block is a header, a sequence of chunks, zeros up to a multiple of four bytes, and a check of the
unpacked bytes. The header may announce how many bytes are packed and how many unpacked, and lists what was
done to the bytes: the filters that they passed, one after another, and at last the chunks, with how far
back bytes are repeated. It has a check sum of its own. The check is a sum of 32 or of 64 bits or a digest;
checks that are not known are passed over.
-/

namespace Clausal.Xz

/-- The check of a block, by its number. -/
structure Check where
  /-- The number. -/
  number : Nat
deriving DecidableEq

namespace Check

/-- The number of bytes of a check: none for the first, then four, doubled with every third. -/
def size (check : Check) : Nat :=
  if check.number = 0 then 0 else 4 <<< ((check.number - 1) / 3)

/-- The check agrees with the unpacked bytes, as far as it is known. -/
def agrees (check : Check) (bytes found : List UInt8) : Bool :=
  if check.number = 1 then littleEndian found = (sum32 bytes).toNat
  else if check.number = 4 then littleEndian found = (sum64 bytes).toNat
  else if check.number = 10 then found = (Digest.ofBytes bytes).toBytes
  else true

end Check

/-- What the header of a block says. -/
structure BlockHeader where
  /-- The number of its own bytes. -/
  ownSize : Nat
  /-- The announced number of packed bytes. -/
  packedSize : Option Nat
  /-- The announced number of unpacked bytes. -/
  size : Option Nat
  /-- The filters that the bytes passed before they were packed in chunks. -/
  filters : List Filter
  /-- How far back bytes are repeated. -/
  reach : Nat
deriving DecidableEq

/-- The sizes of a block, as they are listed after all blocks. -/
structure Record where
  /-- The number of its bytes without the zeros. -/
  packedSize : Nat
  /-- The number of unpacked bytes. -/
  size : Nat
deriving DecidableEq

namespace BlockHeader

/-- The number of the filter that is a sequence of chunks. -/
def chunksFilter : Nat := 0x21

/-- The least number that no filter has. -/
def filterBound : Nat := 0x4000000000000000

/-- The reach that a byte stands for. -/
def reachOf (byte : UInt8) : Nat :=
  if byte = 40 then 0xFFFFFFFF else (2 + byte.toNat % 2) <<< (byte.toNat / 2 + 11)

/-- Reads one thing that was done to the bytes: they passed a filter, or were packed in chunks, with a
reach. -/
def entry : Reading (Filter ⊕ Nat) := do
  let kind ← Reading.number
  Reading.require .data (kind < filterBound)
  let settings ← Reading.number >>= Reading.bytes
  if kind = chunksFilter then
    match settings with
    | [byte] =>
      Reading.require .options (byte ≤ 40)
      return .inr (reachOf byte)
    | _ => Reading.refuse .options
  else
    match Filter.ofSettings? kind settings with
    | some filter => return .inl filter
    | none => Reading.refuse .options

/-- Reads so many things that were done to the bytes. -/
def entries : Nat → Reading (List (Filter ⊕ Nat))
  | 0 => pure []
  | count + 1 => do
    let first ← entry
    return first :: (← entries count)

/-- The greatest number of bytes of a block without the zeros. -/
def sizeBound : Nat := 0x7FFFFFFFFFFFFFFC

/-- Reads an announced number, if there is one. -/
def announced (isThere : Bool) : Reading (Option Nat) :=
  if isThere then some <$> Reading.number else pure none

/-- Reads what follows the size of a header, up to its check sum. -/
def fields (ownSize : Nat) (check : Check) : Reading BlockHeader := do
  let flags := (← Reading.byte).toNat
  Reading.require .options (flags % 64 < 4)
  let packedSize ← announced (flags / 64 % 2 = 1)
  Reading.require .data (packedSize.all fun size =>
    0 < size && ownSize + size + check.size ≤ sizeBound)
  let size ← announced (flags / 128 = 1)
  let found ← entries (flags % 4 + 1)
  let padding ← get
  Reading.require .options (padding.all (· = 0))
  match found.dropLast.mapM Sum.getLeft?, found.getLast? >>= Sum.getRight? with
  | some filters, some reach =>
    Reading.require .options (filters.all Filter.isAligned)
    return ⟨ownSize, packedSize, size, filters, reach⟩
  | _, _ => Reading.refuse .options

/-- Reads a header. Within it, bytes that end too early are wrong. -/
def read (check : Check) : Reading BlockHeader := do
  let first ← Reading.byte
  let ownSize := 4 * (first.toNat + 1)
  let body ← Reading.bytes (ownSize - 5)
  let sum ← Reading.bytes 4
  Reading.require .data (littleEndian sum = (sum32 (first :: body)).toNat)
  match fields ownSize check body with
  | .ok (header, _) => return header
  | .error .cut => Reading.refuse .data
  | .error (.refused refusal) => Reading.refuse refusal

end BlockHeader

namespace Block

/-- The bytes out of chunks as they were before they passed filters, the last of which was passed last. -/
def unfiltered (filters : List Filter) (unpacked : Unpacked) : Unpacked :=
  let isOver := match unpacked.ending with
    | .finished _ => true
    | .stopped _ => false
  { unpacked with bytes := filters.foldr (fun filter bytes => filter.undo isOver bytes) unpacked.bytes }

/-- The chunks of a block. They may not need more bytes than are announced, nor give more. -/
def chunks (header : BlockHeader) (source : List UInt8) : Unpacked :=
  let packed := (header.packedSize.map source.take).getD source
  let outside := source.drop packed.length
  let unpacked := unfiltered header.filters (Chunks.unpack header.reach packed)
  if header.size.any (· < unpacked.bytes.size) then
    ⟨unpacked.bytes.take (header.size.getD 0), .stopped (.refused .data)⟩
  else match unpacked.ending with
    | .finished rest =>
      if header.packedSize.all (· = packed.length - rest.length) &&
          header.size.all (· = unpacked.bytes.size) then
        ⟨unpacked.bytes, .finished (rest ++ outside)⟩
      else ⟨unpacked.bytes, .stopped (.refused .data)⟩
    | .stopped .cut =>
      ⟨unpacked.bytes,
        .stopped (if header.packedSize.any (· ≤ source.length) then .refused .data else .cut)⟩
    | .stopped stop => ⟨unpacked.bytes, .stopped stop⟩

/-- Reads so many zeros. -/
def zeros : Nat → Reading Unit
  | 0 => pure ()
  | count + 1 => do
    Reading.require .data ((← Reading.byte) = 0)
    zeros count

/-- The number of zeros up to the next multiple of four. -/
def padding (size : Nat) : Nat :=
  (4 - size % 4) % 4

/-- Reads what follows the chunks of a block. -/
def trailer (check : Check) (packedSize : Nat) (bytes : List UInt8) : Reading Unit := do
  zeros (padding packedSize)
  let found ← Reading.bytes check.size
  Reading.require .data (check.agrees bytes found)

/-- Unpacks a block and gives its sizes. -/
def unpack (check : Check) (source : List UInt8) : Unpacked × Record :=
  match BlockHeader.read check source with
  | .error stop => (⟨#[], .stopped stop⟩, ⟨0, 0⟩)
  | .ok (header, body) =>
    let unpacked := chunks header body
    match unpacked.ending with
    | .stopped _ => (unpacked, ⟨0, 0⟩)
    | .finished rest =>
      let packedSize := body.length - rest.length
      ({ unpacked with
          ending := match trailer check packedSize unpacked.bytes.toList rest with
            | .error stop => .stopped stop
            | .ok (_, rest) => .finished rest },
        ⟨header.ownSize + packedSize + check.size, unpacked.bytes.size⟩)

end Block

end Clausal.Xz
