import Clausal.Xz.Checksum
import Clausal.Xz.Machine

/-!
# Bare symbols

Two plainer forms hold symbols without chunks. The bare form has a header only: properties, reach, and the
announced number of bytes or none. As nothing marks its start, a header that nobody would write is taken
for that of another form. The member form starts with a mark, has fixed properties, and ends with a check
sum and its sizes.
-/

namespace Clausal.Xz

namespace Bare

/-- The reach is one that is written: a power of two, one and a half of it, or the greatest. -/
def isCommonReach (reach : Nat) : Bool :=
  reach = 0 || reach = 0xFFFFFFFF ||
    (List.range 32).any fun power => reach = 1 <<< power || reach = 3 <<< power

/-- The announced number of bytes that stands for none. -/
def noSize : Nat := 0xFFFFFFFFFFFFFFFF

/-- The least number of bytes that nobody announces. -/
def sizeBound : Nat := 0x4000000000

/-- Reads the header: the machine for what follows, and the announced number of bytes. -/
def header : Reading (Machine × Option Nat) := do
  match Properties.ofByte? (← Reading.byte) with
  | none => Reading.refuse .format
  | some properties =>
    let reach := littleEndian (← Reading.bytes 4)
    Reading.require .format (isCommonReach reach)
    let size := littleEndian (← Reading.bytes 8)
    Reading.require .format (size = noSize || size < sizeBound)
    return (.reset properties (.start reach), if size = noSize then none else some size)

/-- Unpacks the bare form. -/
def unpack (source : List UInt8) : Unpacked :=
  match header source with
  | .error stop => ⟨#[], .stopped stop⟩
  | .ok ((machine, announced), rest) =>
    let (machine, ending) := machine.unpack true announced rest
    ⟨machine.history.bytes, ending⟩

end Bare

namespace Member

/-- The bytes that a member starts with. -/
def magic : List UInt8 := [0x4C, 0x5A, 0x49, 0x50]

/-- Reads given bytes. -/
def expect : List UInt8 → Reading Unit
  | [] => pure ()
  | byte :: rest => do
    Reading.require .format ((← Reading.byte) = byte)
    expect rest

/-- The properties of every member. -/
def properties : Properties := ⟨3, 0, 2⟩

/-- Reads the reach: a power of two, less some sixteenths of it. -/
def reach : Reading Nat := do
  let byte := (← Reading.byte).toNat
  let power := byte % 32
  let sixteenths := byte / 32
  Reading.require .data (12 ≤ power && power ≤ 29 && !(power = 12 && 0 < sixteenths))
  return (1 <<< power) - (sixteenths <<< (power - 4))

/-- Reads the header: the version, and the machine for what follows. -/
def header : Reading (UInt8 × Machine) := do
  expect magic
  let version ← Reading.byte
  Reading.require .options (version ≤ 1)
  return (version, .reset properties (.start (← reach)))

/-- Reads what follows the symbols. Only the newer version gives the size of the whole member. -/
def trailer (version : UInt8) (packedSize : Nat) (bytes : List UInt8) : Reading Unit := do
  let found ← Reading.bytes (if version = 0 then 12 else 20)
  Reading.require .data (littleEndian (found.take 4) = (sum32 bytes).toNat)
  Reading.require .data (littleEndian ((found.drop 4).take 8) = bytes.length)
  Reading.require .data (version = 0 || littleEndian (found.drop 12) = packedSize + 20)

/-- Unpacks a member. -/
def unpack (source : List UInt8) : Unpacked :=
  match header source with
  | .error stop => ⟨#[], .stopped stop⟩
  | .ok ((version, machine), rest) =>
    let (machine, ending) := machine.unpack true none rest
    ⟨machine.history.bytes, match ending with
      | .stopped stop => .stopped stop
      | .finished rest =>
        match trailer version (source.length - rest.length) machine.history.bytes.toList rest with
        | .error stop => .stopped stop
        | .ok (_, rest) => .finished rest⟩

end Member

end Clausal.Xz
