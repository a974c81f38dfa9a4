import Clausal.Xz.History
import Clausal.Xz.Range

/-!
# Symbols

Packed bytes are a sequence of symbols: a byte as it is, a repetition of earlier bytes, or the end. A
repetition names its distance, or one of the four distances used last, and its length. The odds of every
bit depend on what kinds of symbols came before, on the place among the unpacked bytes, and for a byte on
the bytes before it and at the distance used last.
-/

namespace Clausal.Xz

/-- What the odds depend on. -/
structure Properties where
  /-- How many of the highest bits of the byte before. -/
  contextBits : Nat
  /-- How many of the lowest bits of the place of a byte. -/
  placeBits : Nat
  /-- How many of the lowest bits of the place of any symbol. -/
  positionBits : Nat
deriving DecidableEq

namespace Properties

/-- The greatest number of bits that the odds of a byte depend on. -/
def contextLimit : Nat := 4

/-- The properties that a byte stands for. -/
def ofByte? (byte : UInt8) : Option Properties :=
  let value := byte.toNat
  let properties : Properties := ⟨value % 9, value / 9 % 5, value / 45⟩
  if value < 225 ∧ properties.contextBits + properties.placeBits ≤ contextLimit then
    some properties
  else none

end Properties

/-- What is repeated or added. -/
inductive Symbol where
  /-- A byte. -/
  | literal (byte : UInt8)
  /-- So many bytes at a distance. -/
  | copy (distance length : Nat)
  /-- The end. -/
  | endMark
deriving DecidableEq

/-! ## Kinds of bits

Every kind of bit has a number. Those that depend on the phase and on the position come in groups. -/

namespace Kind

/-- Whether a symbol is a repetition. -/
def isCopy (phase position : Nat) : Nat := 16 * phase + position

/-- Whether the distance of a repetition is one of the latest. -/
def isRecent (phase : Nat) : Nat := 192 + phase

/-- Whether it is not the latest. -/
def isOlder (phase : Nat) : Nat := 204 + phase

/-- Whether it is not the second latest. -/
def isThird (phase : Nat) : Nat := 216 + phase

/-- Whether it is not the third latest. -/
def isFourth (phase : Nat) : Nat := 228 + phase

/-- Whether more than one byte is repeated at the latest distance. -/
def isLong (phase position : Nat) : Nat := 240 + 16 * phase + position

/-- The tree of the sizes of distances, for each of four groups of lengths. -/
def distanceSize (group : Nat) : Nat := 432 + 64 * group

/-- The trees of the lower bits of middling distances. -/
def distanceTail : Nat := 688

/-- The tree of the lowest bits of large distances. -/
def distanceEnd : Nat := 816

/-- The bits of the length of a repetition at a new distance. -/
def newLength : Nat := 832

/-- The bits of the length of a repetition at one of the latest distances. -/
def recentLength : Nat := 1346

/-- The trees of bytes. -/
def literal (context : Nat) : Nat := 1860 + 768 * context

/-- The number of kinds that there are under given properties. -/
def count (properties : Properties) : Nat :=
  literal (1 <<< (properties.contextBits + properties.placeBits))

end Kind

/-! ## Phases

The phase sums up the latest symbols: up to six after a byte, above it after a repetition. -/

namespace Phase

/-- The last symbol was a repetition. -/
def afterCopy (phase : Nat) : Bool := 7 ≤ phase

/-- The phase after a byte. -/
def literal (phase : Nat) : Nat :=
  if phase < 4 then 0 else if phase < 10 then phase - 3 else phase - 6

/-- The phase after a repetition at a new distance. -/
def newCopy (phase : Nat) : Nat := if afterCopy phase then 10 else 7

/-- The phase after a repetition at one of the latest distances. -/
def recentCopy (phase : Nat) : Nat := if afterCopy phase then 11 else 8

/-- The phase after the repetition of one byte. -/
def single (phase : Nat) : Nat := if afterCopy phase then 11 else 9

end Phase

/-- The four distances used last, the latest first. -/
structure Recent where
  /-- The latest distance. -/
  first : Nat
  /-- The second latest. -/
  second : Nat
  /-- The third latest. -/
  third : Nat
  /-- The fourth latest. -/
  fourth : Nat
deriving DecidableEq

/-- No distance has been used. -/
def Recent.start : Recent := ⟨0, 0, 0, 0⟩

/-- What the symbols so far leave behind. -/
structure Past where
  /-- The phase. -/
  phase : Nat
  /-- The latest distances. -/
  recent : Recent
deriving DecidableEq

/-- There has been no symbol. -/
def Past.start : Past := ⟨0, .start⟩

namespace Decoding

/-- Reads a length of at least two. -/
def length (kinds position : Nat) : Decoding Nat := do
  if !(← bit kinds) then return 2 + (← highestFirst (kinds + 2 + 8 * position) 3)
  else if !(← bit (kinds + 1)) then return 10 + (← highestFirst (kinds + 130 + 8 * position) 3)
  else return 18 + (← highestFirst (kinds + 258) 8)

/-- The distance that stands for the end. -/
def endDistance : Nat := 0xFFFFFFFF

/-- Reads a distance for a repetition of the given length. -/
def distance (length : Nat) : Decoding Nat := do
  let size ← highestFirst (Kind.distanceSize (min (length - 2) 3)) 6
  if size < 4 then return size
  else
    let lower := size / 2 - 1
    let upper := 2 + size % 2
    if size < 14 then
      let base := upper <<< lower
      return base + (← lowestFirst (Kind.distanceTail + base - size - 1) lower 1)
    else
      let middle ← evenBits (lower - 4) upper
      return 16 * middle + (← lowestFirst Kind.distanceEnd 4 1)

/-- Reads so many lower bits of a byte after a repetition. As long as the byte is the one at the latest
distance, that byte decides what the odds are. -/
def matchedLiteral (tree : Nat) (expected : UInt8) : Nat → Nat → Decoding Nat
  | 0, node => pure node
  | count + 1, node => do
    let guess := (expected.toNat >>> count) % 2
    let one ← bit (tree + 256 * (1 + guess) + node)
    let next := 2 * node + one.toNat
    if one.toNat = guess then matchedLiteral tree expected count next else descend tree count next

/-- Reads a byte. -/
def literal (properties : Properties) (history : History) (past : Past) : Decoding UInt8 := do
  let place := history.length % (1 <<< properties.placeBits)
  let context := (history.back 0).toNat >>> (8 - properties.contextBits)
  let tree := Kind.literal (place <<< properties.contextBits + context)
  let leaf ← if Phase.afterCopy past.phase then
      matchedLiteral tree (history.back past.recent.first) 8 1
    else descend tree 8 1
  return UInt8.ofNat (leaf - 256)

/-- Reads which of the latest distances is used again, and puts it first. -/
def older (phase : Nat) (recent : Recent) : Decoding Recent := do
  if !(← bit (Kind.isThird phase)) then
    return ⟨recent.second, recent.first, recent.third, recent.fourth⟩
  else if !(← bit (Kind.isFourth phase)) then
    return ⟨recent.third, recent.first, recent.second, recent.fourth⟩
  else return ⟨recent.fourth, recent.first, recent.second, recent.third⟩

/-- Reads a symbol. -/
def symbol (properties : Properties) (history : History) (past : Past) :
    Decoding (Symbol × Past) := do
  let ⟨phase, recent⟩ := past
  let position := history.length % (1 <<< properties.positionBits)
  if !(← bit (Kind.isCopy phase position)) then
    let byte ← literal properties history past
    return (.literal byte, ⟨Phase.literal phase, recent⟩)
  else if !(← bit (Kind.isRecent phase)) then
    let size ← length Kind.newLength position
    let new ← distance size
    if new = endDistance then return (.endMark, past)
    else return (.copy new size, ⟨Phase.newCopy phase, ⟨new, recent.first, recent.second, recent.third⟩⟩)
  else if history.length = 0 then throw (.refused .data)
  else if !(← bit (Kind.isOlder phase)) then
    if !(← bit (Kind.isLong phase position)) then
      return (.copy recent.first 1, ⟨Phase.single phase, recent⟩)
    else
      let size ← length Kind.recentLength position
      return (.copy recent.first size, ⟨Phase.recentCopy phase, recent⟩)
  else
    let reordered ← older phase recent
    let size ← length Kind.recentLength position
    return (.copy reordered.first size, ⟨Phase.recentCopy phase, reordered⟩)

end Decoding

end Clausal.Xz
