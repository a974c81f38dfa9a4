/-!
# Digests

The digest of 256 bits. The bytes are filled up to whole pieces of 64 bytes, the last eight of which give
their number of bits. Eight words are mixed in 64 rounds with the words of each piece, which are followed
by words made of earlier ones, and with as many constants.
-/

namespace Clausal.Xz

/-- The eight words of a digest. -/
structure Digest where
  /-- The first word. -/
  first : UInt32
  /-- The second word. -/
  second : UInt32
  /-- The third word. -/
  third : UInt32
  /-- The fourth word. -/
  fourth : UInt32
  /-- The fifth word. -/
  fifth : UInt32
  /-- The sixth word. -/
  sixth : UInt32
  /-- The seventh word. -/
  seventh : UInt32
  /-- The eighth word. -/
  eighth : UInt32
deriving DecidableEq

namespace Digest

/-- The words before the first piece: of the square roots of the first eight primes, what follows the
point. -/
def start : Digest :=
  ⟨0x6A09E667, 0xBB67AE85, 0x3C6EF372, 0xA54FF53A,
    0x510E527F, 0x9B05688C, 0x1F83D9AB, 0x5BE0CD19⟩

/-- The constants of the rounds: of the cube roots of the first 64 primes, what follows the point. -/
def constants : List UInt32 := [
  0x428A2F98, 0x71374491, 0xB5C0FBCF, 0xE9B5DBA5, 0x3956C25B, 0x59F111F1, 0x923F82A4, 0xAB1C5ED5,
  0xD807AA98, 0x12835B01, 0x243185BE, 0x550C7DC3, 0x72BE5D74, 0x80DEB1FE, 0x9BDC06A7, 0xC19BF174,
  0xE49B69C1, 0xEFBE4786, 0x0FC19DC6, 0x240CA1CC, 0x2DE92C6F, 0x4A7484AA, 0x5CB0A9DC, 0x76F988DA,
  0x983E5152, 0xA831C66D, 0xB00327C8, 0xBF597FC7, 0xC6E00BF3, 0xD5A79147, 0x06CA6351, 0x14292967,
  0x27B70A85, 0x2E1B2138, 0x4D2C6DFC, 0x53380D13, 0x650A7354, 0x766A0ABB, 0x81C2C92E, 0x92722C85,
  0xA2BFE8A1, 0xA81A664B, 0xC24B8B70, 0xC76C51A3, 0xD192E819, 0xD6990624, 0xF40E3585, 0x106AA070,
  0x19A4C116, 0x1E376C08, 0x2748774C, 0x34B0BCB5, 0x391C0CB3, 0x4ED8AA4A, 0x5B9CCA4F, 0x682E6FF3,
  0x748F82EE, 0x78A5636F, 0x84C87814, 0x8CC70208, 0x90BEFFFA, 0xA4506CEB, 0xBEF9A3F7, 0xC67178F2
]

/-- A word turned to the right by so many bits. -/
def turn (word count : UInt32) : UInt32 :=
  (word >>> count) ||| (word <<< (32 - count))

/-- The word that follows sixteen words of a piece. -/
def nextWord (window : List UInt32) : UInt32 :=
  let early := window.getD 1 0
  let late := window.getD 14 0
  window.getD 0 0 + (turn early 7 ^^^ turn early 18 ^^^ (early >>> 3)) + window.getD 9 0 +
    (turn late 17 ^^^ turn late 19 ^^^ (late >>> 10))

/-- One round with a constant and a word. -/
def round (digest : Digest) (constant word : UInt32) : Digest :=
  let ⟨a, b, c, d, e, f, g, h⟩ := digest
  let lower := h + (turn e 6 ^^^ turn e 11 ^^^ turn e 25) + ((e &&& f) ^^^ (~~~e &&& g)) + constant + word
  let upper := (turn a 2 ^^^ turn a 13 ^^^ turn a 22) + ((a &&& b) ^^^ (a &&& c) ^^^ (b &&& c))
  ⟨lower + upper, a, b, c, d + lower, e, f, g⟩

/-- The rounds with the given constants, over a window of sixteen words. -/
def rounds : List UInt32 → List UInt32 → Digest → Digest
  | [], _, digest => digest
  | constant :: others, window, digest =>
    rounds others (window.drop 1 ++ [nextWord window]) (digest.round constant (window.getD 0 0))

/-- Two digests added word by word. -/
def add (left right : Digest) : Digest :=
  ⟨left.first + right.first, left.second + right.second, left.third + right.third,
    left.fourth + right.fourth, left.fifth + right.fifth, left.sixth + right.sixth,
    left.seventh + right.seventh, left.eighth + right.eighth⟩

/-- The words of bytes, the highest byte first. -/
def words : List UInt8 → List UInt32
  | a :: b :: c :: d :: rest =>
    ((a.toUInt32 <<< 24) ||| (b.toUInt32 <<< 16) ||| (c.toUInt32 <<< 8) ||| d.toUInt32) :: words rest
  | _ => []

/-- Takes so many pieces of sixteen words up into a digest. -/
def absorb : Nat → List UInt32 → Digest → Digest
  | 0, _, digest => digest
  | count + 1, pending, digest =>
    absorb count (pending.drop 16) (digest.add (rounds constants (pending.take 16) digest))

/-- A word as bytes, the highest first. -/
def wordBytes (word : UInt32) : List UInt8 :=
  [(word >>> 24).toUInt8, (word >>> 16).toUInt8, (word >>> 8).toUInt8, word.toUInt8]

/-- Bytes filled up to whole pieces. -/
def filled (bytes : List UInt8) : List UInt8 :=
  let bits := UInt64.ofNat (8 * bytes.length)
  bytes ++ ([0x80] : List UInt8) ++ List.replicate ((119 - bytes.length % 64) % 64) (0 : UInt8) ++
    wordBytes (bits >>> 32).toUInt32 ++ wordBytes bits.toUInt32

/-- The digest of bytes. -/
def ofBytes (bytes : List UInt8) : Digest :=
  let pieces := words (filled bytes)
  absorb (pieces.length / 16) pieces start

/-- The bytes of a digest. -/
def toBytes (digest : Digest) : List UInt8 :=
  [digest.first, digest.second, digest.third, digest.fourth, digest.fifth, digest.sixth, digest.seventh,
    digest.eighth].flatMap wordBytes

end Digest

end Clausal.Xz
