import Clausal.Xz.Machine

/-!
# Chunks

A sequence of chunks, each of which starts with a byte that says what it is. A chunk holds bytes as they
are or symbols, with the number of packed and of unpacked bytes in front. It may begin the history anew,
set new properties, or make the machine forget what the symbols before it left behind; the first chunk
begins the history, and the first one with symbols sets properties. A zero ends the sequence.
-/

namespace Clausal.Xz

/-- The state between two chunks. -/
structure Chunks where
  /-- The bytes unpacked so far. -/
  history : History
  /-- What the symbols so far left behind, unless properties have to be set first. -/
  machine : Option Machine
  /-- The history has been begun. -/
  hasBegun : Bool

/-- What a chunk says of itself. -/
inductive Chunk where
  /-- The sequence ends. -/
  | final
  /-- So many bytes follow as they are. -/
  | stored (size : Nat)
  /-- Symbols follow for so many bytes, in so many packed ones, to be carried out by this machine. -/
  | packed (size packedSize : Nat) (machine : Machine)

namespace Chunks

/-- The state before the first chunk. -/
def start (reach : Nat) : Chunks := ⟨.start reach, none, false⟩

/-- Reads a size, of which the higher byte comes first and which is one larger. -/
def size : Reading Nat := do
  let high ← Reading.byte
  let low ← Reading.byte
  return 256 * high.toNat + low.toNat + 1

/-- The machine for a chunk with symbols, which may set properties of its own. -/
def machineFor (control : UInt8) (chunks : Chunks) : Reading Machine :=
  if 0xC0 ≤ control then do
    match Properties.ofByte? (← Reading.byte) with
    | none => Reading.refuse .data
    | some properties => return .reset properties chunks.history
  else match chunks.machine with
    | none => Reading.refuse .data
    | some machine =>
      return if 0xA0 ≤ control then .reset machine.properties chunks.history
        else { machine with history := chunks.history }

/-- The state when a chunk starts with the given byte: the history may be begun anew, which makes
properties necessary. -/
def entered (control : UInt8) (chunks : Chunks) : Chunks :=
  if 0xE0 ≤ control ∨ control = 1 then ⟨chunks.history.restart, none, true⟩ else chunks

/-- Reads what stands in front of a chunk. -/
def header (chunks : Chunks) : Reading (Chunk × Chunks) := do
  let control ← Reading.byte
  if control = 0 then return (.final, chunks)
  else
    let entered := chunks.entered control
    Reading.require .data (entered.hasBegun && (control ≤ 2 || 0x80 ≤ control))
    if control ≤ 2 then return (.stored (← size), entered)
    else
      Reading.require .data (0xC0 ≤ control || entered.machine.isSome)
      let low ← size
      let packedSize ← size
      let machine ← machineFor control entered
      return (.packed (65536 * (control.toNat % 32) + low) packedSize machine, entered)

/-- The state after a chunk with symbols. -/
def after (chunks : Chunks) (machine : Machine) : Chunks :=
  { chunks with history := machine.history, machine := some machine }

/-- Carries out a chunk with symbols. It has to use up its packed bytes, and may not need more. -/
def carryOut (chunks : Chunks) (size packedSize : Nat) (machine : Machine) (source : List UInt8) :
    Chunks × Ending :=
  let (machine, ending) :=
    machine.unpack false (some (machine.history.bytes.size + size)) (source.take packedSize)
  (chunks.after machine,
    match ending with
    | .finished [] => .finished (source.drop packedSize)
    | .finished _ => .stopped (.refused .data)
    | .stopped .cut => .stopped (if packedSize ≤ source.length then .refused .data else .cut)
    | .stopped stop => .stopped stop)

/-- Carries out a chunk of bytes as they are. -/
def store (chunks : Chunks) (size : Nat) (source : List UInt8) : Chunks × Ending :=
  ({ chunks with history := chunks.history.append (source.take size) },
    if source.length < size then .stopped .cut else .finished (source.drop size))

/-- Carries out at most so many chunks. -/
def run : Nat → Chunks → List UInt8 → Unpacked
  | 0, chunks, _ => ⟨chunks.history.bytes, .stopped .cut⟩
  | fuel + 1, chunks, source =>
    match chunks.header source with
    | .error stop => ⟨chunks.history.bytes, .stopped stop⟩
    | .ok ((.final, _), rest) => ⟨chunks.history.bytes, .finished rest⟩
    | .ok ((.stored size, entered), rest) =>
      match entered.store size rest with
      | (done, .finished rest) => run fuel done rest
      | (done, ending) => ⟨done.history.bytes, ending⟩
    | .ok ((.packed size packedSize machine, entered), rest) =>
      match entered.carryOut size packedSize machine rest with
      | (done, .finished rest) => run fuel done rest
      | (done, ending) => ⟨done.history.bytes, ending⟩

/-- Unpacks a sequence of chunks. Every chunk takes at least one byte. -/
def unpack (reach : Nat) (source : List UInt8) : Unpacked :=
  run (source.length + 1) (start reach) source

end Chunks

end Clausal.Xz
