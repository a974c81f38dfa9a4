/-!
# Check sums

The remainders that guard packed bytes. A sum starts with all bits set, takes up its bytes one after
another, eight steps each, lowest bit first, and ends with all bits turned over.
-/

namespace Clausal.Xz

/-- The divisor of the sums of 32 bits, its highest power left out and the others in reverse. -/
def divisor32 : UInt32 := 0xEDB88320

/-- One step of a remainder of 32 bits. -/
def step32 (remainder : UInt32) : UInt32 :=
  if remainder &&& 1 = 1 then (remainder >>> 1) ^^^ divisor32 else remainder >>> 1

/-- Takes a byte up into a remainder of 32 bits. -/
def absorb32 (remainder : UInt32) (byte : UInt8) : UInt32 :=
  Nat.repeat step32 8 (remainder ^^^ byte.toUInt32)

/-- The check sum of 32 bits. -/
def sum32 (bytes : List UInt8) : UInt32 :=
  ~~~(bytes.foldl absorb32 0xFFFFFFFF)

/-- The divisor of the sums of 64 bits, its highest power left out and the others in reverse. -/
def divisor64 : UInt64 := 0xC96C5795D7870F42

/-- One step of a remainder of 64 bits. -/
def step64 (remainder : UInt64) : UInt64 :=
  if remainder &&& 1 = 1 then (remainder >>> 1) ^^^ divisor64 else remainder >>> 1

/-- Takes a byte up into a remainder of 64 bits. -/
def absorb64 (remainder : UInt64) (byte : UInt8) : UInt64 :=
  Nat.repeat step64 8 (remainder ^^^ byte.toUInt64)

/-- The check sum of 64 bits. -/
def sum64 (bytes : List UInt8) : UInt64 :=
  ~~~(bytes.foldl absorb64 0xFFFFFFFFFFFFFFFF)

end Clausal.Xz
