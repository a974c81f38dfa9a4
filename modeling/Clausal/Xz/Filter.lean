import Clausal.Xz.Source

/-!
# Filters

Bytes may pass filters before they are packed, and pass them the other way when they are unpacked. One
filter packs differences: each byte less the one at a fixed distance before it. The others are for the
programs of a processor. Where such a program jumps, it says how far; the filter puts the place that it
jumps to instead, as many jumps go to the same place, and here the distance is put back. A jump is known by
the look of a few bytes. The last bytes of all, which are too few, stay as they are, and bytes that stand
where more may follow wait for these.
-/

namespace Clausal.Xz

/-- So many bytes of a number, the lowest first. -/
def lowestFirst : Nat → Nat → List UInt8
  | 0, _ => []
  | count + 1, number => .ofNat number :: lowestFirst count (number / 256)

/-- The processors for whose programs there are filters. -/
inductive Processor where
  /-- The x86, with operations of any number of bytes. -/
  | x86
  /-- The PowerPC, the highest byte of a word first. -/
  | powerPC
  /-- The IA-64, with three operations in a bundle. -/
  | ia64
  /-- The ARM. -/
  | arm
  /-- The ARM with operations of half a word. -/
  | armThumb
  /-- The SPARC, the highest byte of a word first. -/
  | sparc
  /-- The ARM with addresses of 64 bits. -/
  | arm64
deriving DecidableEq

namespace Processor

/-- The processor of a filter, by the number of the filter. -/
def ofNumber? : Nat → Option Processor
  | 4 => some x86
  | 5 => some powerPC
  | 6 => some ia64
  | 7 => some arm
  | 8 => some armThumb
  | 9 => some sparc
  | 10 => some arm64
  | _ => none

/-- Operations start at multiples of this. -/
def alignment : Processor → Nat
  | x86 => 1
  | armThumb => 2
  | ia64 => 16
  | _ => 4

/-- The number of bytes that are looked at together. -/
def width : Processor → Nat
  | x86 => 5
  | ia64 => 16
  | _ => 4

/-! ## Words -/

/-- A word of a PowerPC program. A jump that leaves a way back holds a distance of 24 bits in words. -/
def turnPowerPC (place word : BitVec 32) : BitVec 32 :=
  if word.extractLsb' 26 6 = 0x12 ∧ word.extractLsb' 0 2 = 1 then
    0x12#6 ++ (word.extractLsb' 2 24 - place.extractLsb' 2 24) ++ 1#2
  else word

/-- A word of an ARM program. A jump that leaves a way back is counted from the second word after it. -/
def turnArm (place word : BitVec 32) : BitVec 32 :=
  if word.extractLsb' 24 8 = 0xEB then
    0xEB#8 ++ (word.extractLsb' 0 24 - (place + 8).extractLsb' 2 24)
  else word

/-- Two half words of an ARM program, if together they are a jump: each holds eleven bits, the earlier one
the higher. -/
def turnArmThumb? (place word : BitVec 32) : Option (BitVec 32) :=
  if word.extractLsb' 11 5 = 0x1E ∧ word.extractLsb' 27 5 = 0x1F then
    let held := word.extractLsb' 0 11 ++ word.extractLsb' 16 11
    let distance := held - (place + 4).extractLsb' 1 22
    some (0x1F#5 ++ distance.extractLsb' 0 11 ++ 0x1E#5 ++ distance.extractLsb' 11 11)
  else none

/-- A word of a SPARC program. A jump that leaves a way back is turned if it is near. -/
def turnSparc (place word : BitVec 32) : BitVec 32 :=
  if word.extractLsb' 22 10 = 0x100 ∨ word.extractLsb' 22 10 = 0x1FF then
    1#2 ++ (word.extractLsb' 0 23 - place.extractLsb' 2 23).signExtend 30
  else word

/-- A word of an ARM program with addresses of 64 bits: a jump that leaves a way back, or an operation that
finds a page, if it is near. -/
def turnArm64 (place word : BitVec 32) : BitVec 32 :=
  if word.extractLsb' 26 6 = 0x25 then 0x25#6 ++ (word.extractLsb' 0 26 - place.extractLsb' 2 26)
  else
    let held := word.extractLsb' 5 19 ++ word.extractLsb' 29 2
    let near := held.setWidth 18
    if word.extractLsb' 31 1 = 1 ∧ word.extractLsb' 24 5 = 0x10 ∧ held = near.signExtend 21 then
      let distance := (near - place.extractLsb' 12 18).signExtend 21
      1#1 ++ distance.extractLsb' 0 2 ++ 0x10#5 ++ distance.extractLsb' 2 19 ++ word.extractLsb' 0 5
    else word

/-! ## Bundles -/

/-- The places in a bundle that can hold jumps, by what the bundle says of its operations. -/
def jumpSlots (template : Nat) : List Nat :=
  match template / 2 with
  | 8 | 12 | 14 => [2]
  | 9 => [1, 2]
  | 11 => [0, 1, 2]
  | _ => []

/-- A bundle of an IA-64 program with the operation in one of its places turned. A jump holds 21 bits
of a distance in bundles, the highest of them apart from the others. -/
def turnSlot (place : BitVec 32) (bundle : BitVec 128) (slot : Nat) : BitVec 128 :=
  let start := 5 + 41 * slot
  let operation := bundle.extractLsb' start 41
  if operation.extractLsb' 37 4 = 5 ∧ operation.extractLsb' 9 3 = 0 then
    let held := operation.extractLsb' 36 1 ++ operation.extractLsb' 13 20
    let distance := held - place.extractLsb' 4 21
    let turned := operation.extractLsb' 37 4 ++ distance.extractLsb' 20 1 ++ operation.extractLsb' 33 3 ++
      distance.extractLsb' 0 20 ++ operation.extractLsb' 0 13
    bundle ^^^ ((operation ^^^ turned).setWidth 128 <<< start)
  else bundle

/-- A bundle of an IA-64 program. -/
def turnBundle (place : BitVec 32) (bundle : BitVec 128) : BitVec 128 :=
  (jumpSlots (bundle.toNat % 32)).foldl (turnSlot place) bundle

/-! ## Operations of any number of bytes -/

/-- The highest byte of a distance that is near. -/
def isNear (byte : BitVec 8) : Bool :=
  byte = 0 || byte = 0xFF

/-- The marks, one byte later. One of the lower four stands for each of the last bytes that looks like a
jump and was not turned, and one of the higher four as well if its distance was near. -/
def ageMarks (marks : BitVec 8) : BitVec 8 :=
  (marks &&& 0x77) <<< 1

/-- The marks let a jump be turned: at most one of the last three bytes looks like a jump, and its distance
was not near. -/
def allowTurn (marks : BitVec 8) : Bool :=
  marks = 0 || marks = 2 || marks = 4 || marks = 8

/-- The number of bits of a distance up to the byte in which the distance of the marked byte would end. -/
def openBits (marks : BitVec 8) : Nat :=
  if marks = 2 then 24 else if marks = 4 then 16 else 8

/-- The distance of a jump, from the place after it. As the distance of a marked byte has to keep from
looking near, the bits up to its end are turned over, on both ways through the filter. -/
def distanceX86 (after : BitVec 32) (marks : BitVec 8) (held : BitVec 32) : BitVec 32 :=
  let distance := held - after
  let bits := openBits marks
  if marks ≠ 0 ∧ isNear (distance.extractLsb' (bits - 8) 8) then
    (distance ^^^ (BitVec.allOnes bits).setWidth 32) - after
  else distance

/-- The bytes of an x86 program at a place: five if they are a jump that is turned, else
the first of them, and the marks after them. Of a distance 25 bits are kept. -/
def turnX86 (place : BitVec 32) (marks : BitVec 8) (bytes : List UInt8) : List UInt8 × BitVec 8 :=
  let first := bytes.headD 0
  let isNearby := isNear (bytes.getLastD 0).toBitVec
  if first ≠ 0xE8 ∧ first ≠ 0xE9 then ([first], ageMarks marks)
  else if isNearby && allowTurn marks then
    let distance := distanceX86 (place + 5) marks (.ofNat 32 (littleEndian (bytes.drop 1)))
    (first :: lowestFirst 4 ((distance.setWidth 25).signExtend 32).toNat, 0)
  else ([first], ageMarks (marks ||| if isNearby then 0x11 else 0x01))

/-! ## Programs -/

/-- Four bytes as a word with the lowest byte first, turned. -/
def turnLow (way : BitVec 32 → BitVec 32) (bytes : List UInt8) : List UInt8 :=
  lowestFirst 4 (way (.ofNat 32 (littleEndian bytes))).toNat

/-- What bytes at a place in a program, as many as are looked at together, are turned into: as many bytes
as it takes, and the marks after them. -/
def turn (processor : Processor) (place : BitVec 32) (marks : BitVec 8) (bytes : List UInt8) :
    List UInt8 × BitVec 8 :=
  match processor with
  | x86 => turnX86 place marks bytes
  | powerPC => ((turnLow (turnPowerPC place) bytes.reverse).reverse, marks)
  | ia64 => (lowestFirst 16 (turnBundle place (.ofNat 128 (littleEndian bytes))).toNat, marks)
  | arm => (turnLow (turnArm place) bytes, marks)
  | armThumb =>
    match turnArmThumb? place (.ofNat 32 (littleEndian bytes)) with
    | some word => (lowestFirst 4 word.toNat, marks)
    | none => (bytes.take 2, marks)
  | sparc => ((turnLow (turnSparc place) bytes.reverse).reverse, marks)
  | arm64 => (turnLow (turnArm64 place) bytes, marks)

/-- Adds what at most so many turns give to the bytes that are done. The last bytes, too few to be looked
at, are added as they are if nothing follows them. -/
def walk (processor : Processor) (isOver : Bool) :
    Nat → BitVec 32 → BitVec 8 → List UInt8 → Array UInt8 → Array UInt8
  | 0, _, _, _, done => done
  | fuel + 1, place, marks, bytes, done =>
    let seen := bytes.take processor.width
    if seen.length < processor.width then if isOver then done ++ bytes else done
    else
      let (given, marks) := processor.turn place marks seen
      walk processor isOver fuel (place + .ofNat 32 given.length) marks (bytes.drop given.length)
        (done ++ given)

end Processor

/-- A filter that bytes have passed before they were packed. -/
inductive Filter where
  /-- Differences to the bytes at a distance before. -/
  | differences (distance : Nat)
  /-- Places instead of distances in a program of a processor, which starts at a place. -/
  | places (processor : Processor) (start : BitVec 32)
deriving DecidableEq

namespace Filter

/-- The number of the filter that packs differences. -/
def differencesNumber : Nat := 3

/-- The filter of a number with settings: one less than the distance of differences, or the place where
a program starts, which is the first one unless it is said. -/
def ofSettings? (number : Nat) (settings : List UInt8) : Option Filter :=
  if number = differencesNumber then
    match settings with
    | [byte] => some (differences (byte.toNat + 1))
    | _ => none
  else if settings.length = 0 ∨ settings.length = 4 then
    (Processor.ofNumber? number).map fun processor => places processor (.ofNat 32 (littleEndian settings))
  else none

/-- A program starts where operations can start. -/
def isAligned : Filter → Bool
  | differences _ => true
  | places processor start => start.toNat % processor.alignment = 0

/-- Adds a byte, given less the one at a distance before it. -/
def addDifference (distance : Nat) (done : Array UInt8) (byte : UInt8) : Array UInt8 :=
  done.push (if done.size < distance then byte else byte + done.getD (done.size - distance) 0)

/-- The bytes as they were before they passed the filter. More may follow unless they are over. -/
def undo (filter : Filter) (isOver : Bool) (bytes : Array UInt8) : Array UInt8 :=
  match filter with
  | differences distance => bytes.foldl (addDifference distance) #[]
  | places processor start => processor.walk isOver (bytes.size + 1) start 0 bytes.toList #[]

end Filter

end Clausal.Xz
