/-!
# Packed bytes

What is read of packed bytes from their front: single bytes, several bytes, words with the lowest byte
first, and numbers of varying length, which carry seven bits a byte and a mark on every byte but the
last. Bytes that end too early are told apart from bytes that are wrong.
-/

namespace Clausal.Xz

/-- Why packed bytes are refused. -/
inductive Refusal where
  /-- They are of no known form. -/
  | format
  /-- They ask for what is not supported. -/
  | options
  /-- They contradict themselves. -/
  | data
deriving DecidableEq

/-- The sentence that reports a refusal. -/
def Refusal.message : Refusal → String
  | format => "Input format not supported by decoder"
  | options => "Invalid or unsupported options"
  | data => "Corrupt input data"

/-- Why unpacking does not come to its end. -/
inductive Stop where
  /-- The packed bytes end too early. -/
  | cut
  /-- The packed bytes are refused. -/
  | refused (refusal : Refusal)
deriving DecidableEq

/-- How unpacking ends. -/
inductive Ending where
  /-- It comes to its end, before the given bytes. -/
  | finished (rest : List UInt8)
  /-- It stops. -/
  | stopped (stop : Stop)
deriving DecidableEq

/-- What unpacking gives. -/
structure Unpacked where
  /-- The bytes up to the end. -/
  bytes : Array UInt8
  /-- How it ends. -/
  ending : Ending

/-- A reader of packed bytes. -/
abbrev Reading (α : Type) := StateT (List UInt8) (Except Stop) α

namespace Reading

/-- Refuses what is read. -/
def refuse {α : Type} (refusal : Refusal) : Reading α :=
  fun _ => .error (.refused refusal)

/-- Refuses what is read unless a condition holds. -/
def require (refusal : Refusal) (condition : Bool) : Reading Unit :=
  if condition then pure () else refuse refusal

/-- Reads a byte. -/
def byte : Reading UInt8
  | [] => .error .cut
  | first :: rest => .ok (first, rest)

/-- Reads so many bytes. -/
def bytes (count : Nat) : Reading (List UInt8) :=
  fun source =>
    if source.length < count then .error .cut else .ok (source.take count, source.drop count)

/-- Reads a number of varying length that may have so many bytes more. The first byte after the first
one is not the last if it carries nothing, so every number has one form. -/
def numberWithin : Nat → Bool → Reading Nat
  | 0, _ => refuse .data
  | more + 1, isFirst => do
    let next ← byte
    if next < 128 then
      require .data (isFirst || next ≠ 0)
      return next.toNat
    else
      let higher ← numberWithin more false
      return next.toNat - 128 + 128 * higher

/-- The greatest number of bytes of a number. -/
def numberSize : Nat := 9

/-- Reads a number of varying length. -/
def number : Reading Nat :=
  numberWithin numberSize true

end Reading

/-- The number of bytes of which the lowest comes first. -/
def littleEndian : List UInt8 → Nat
  | [] => 0
  | first :: rest => first.toNat + 256 * littleEndian rest

end Clausal.Xz
