import Clausal.Xz.Source

/-!
# Bits from a range

Packed bits are told apart by the part of a range that a code lies in. The range is split by the odds
of the bit, which come to expect more of what was met; it is widened by a byte when it has become
narrow. Several bits in a row are read down a tree, in which every node has odds of its own.
-/

namespace Clausal.Xz

/-- A range and the place in it, with the bytes not taken up yet. -/
structure Range where
  /-- The width of the range. -/
  width : UInt32
  /-- The place in the range. -/
  code : UInt32
  /-- The bytes that follow. -/
  rest : List UInt8

/-- The width below which a range is widened. -/
def narrowWidth : UInt32 := 0x1000000

namespace Range

/-- The range at the start of packed bytes: a zero, then the code. -/
def start : Reading Range := do
  let first ← Reading.byte
  Reading.require .data (first = 0)
  let code ← Reading.bytes 4
  let rest ← get
  return ⟨0xFFFFFFFF, code.foldl (fun value byte => (value <<< 8) ||| byte.toUInt32) 0, rest⟩

/-- The range, widened if it is narrow. -/
def widened (range : Range) : Except Stop Range :=
  if range.width < narrowWidth then
    match range.rest with
    | [] => .error .cut
    | byte :: rest => .ok ⟨range.width <<< 8, (range.code <<< 8) ||| byte.toUInt32, rest⟩
  else .ok range

/-- Nothing is left in the range. -/
def isSpent (range : Range) : Bool :=
  range.code = 0

end Range

/-- A range and the odds of every kind of bit. -/
structure Coder where
  /-- The range. -/
  range : Range
  /-- For each kind of bit, how many of 2048 are expected to be zero. -/
  odds : Array UInt32

/-- The odds of a bit of which nothing is known. -/
def evenOdds : UInt32 := 1024

/-- A reader of bits. -/
abbrev Decoding (α : Type) := StateT Coder (Except Stop) α

namespace Decoding

/-- Reads a bit of the kind with the given number. -/
def bit (kind : Nat) : Decoding Bool := fun coder =>
  match coder with
  | ⟨range, odds⟩ =>
    match range.widened with
    | .error stop => .error stop
    | .ok ⟨width, code, rest⟩ =>
      let zero := odds.getD kind evenOdds
      let bound := (width >>> 11) * zero
      if code < bound then
        .ok (false, ⟨⟨bound, code, rest⟩, odds.setIfInBounds kind (zero + ((2048 - zero) >>> 5))⟩)
      else
        .ok (true,
          ⟨⟨width - bound, code - bound, rest⟩, odds.setIfInBounds kind (zero - (zero >>> 5))⟩)

/-- Reads a bit that is zero as often as one. -/
def evenBit : Decoding Bool := fun coder =>
  match coder with
  | ⟨range, odds⟩ =>
    match range.widened with
    | .error stop => .error stop
    | .ok ⟨width, code, rest⟩ =>
      let half := width >>> 1
      if code - half < 0x80000000 then .ok (true, ⟨⟨half, code - half, rest⟩, odds⟩)
      else .ok (false, ⟨⟨half, code, rest⟩, odds⟩)

/-- Reads so many bits that are zero as often as one, behind those read before. -/
def evenBits : Nat → Nat → Decoding Nat
  | 0, before => pure before
  | count + 1, before => do
    let one ← evenBit
    evenBits count (2 * before + one.toNat)

/-- Reads so many bits down a tree from a node, and gives the node that is reached. -/
def descend (tree : Nat) : Nat → Nat → Decoding Nat
  | 0, node => pure node
  | count + 1, node => do
    let one ← bit (tree + node)
    descend tree count (2 * node + one.toNat)

/-- Reads a number of so many bits down a tree, the highest bit first. -/
def highestFirst (tree count : Nat) : Decoding Nat := do
  let leaf ← descend tree count 1
  return leaf - 1 <<< count

/-- Reads a number of so many bits down a tree from a node, the lowest bit first. -/
def lowestFirst (tree : Nat) : Nat → Nat → Decoding Nat
  | 0, _ => pure 0
  | count + 1, node => do
    let one ← bit (tree + node)
    let higher ← lowestFirst tree count (2 * node + one.toNat)
    return one.toNat + 2 * higher

end Decoding

end Clausal.Xz
