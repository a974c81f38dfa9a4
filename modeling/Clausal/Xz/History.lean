/-!
# History

The bytes unpacked so far. New bytes may repeat earlier ones, no further back than a limit and than the
place where the history was last begun anew.
-/

namespace Clausal.Xz

/-- The bytes unpacked so far. -/
structure History where
  /-- All of them. -/
  bytes : Array UInt8
  /-- How many of them came before the history was last begun anew. -/
  origin : Nat
  /-- How far back a byte can be repeated. -/
  reach : Nat

namespace History

/-- The least reach. -/
def leastReach : Nat := 4096

/-- The history before the first byte. Its reach is rounded up to a multiple of sixteen. -/
def start (reach : Nat) : History :=
  ⟨#[], 0, (max leastReach reach + 15) / 16 * 16⟩

/-- Begins the history anew. -/
def restart (history : History) : History :=
  { history with origin := history.bytes.size }

/-- The number of bytes since the history was begun. -/
def length (history : History) : Nat :=
  history.bytes.size - history.origin

/-- A byte at so many bytes before the latest one can be repeated. -/
def reaches (history : History) (distance : Nat) : Bool :=
  distance < min history.length history.reach

/-- The byte at so many bytes before the latest one; a zero before the first. -/
def back (history : History) (distance : Nat) : UInt8 :=
  if distance < history.length then history.bytes.getD (history.bytes.size - 1 - distance) 0 else 0

/-- Adds a byte. -/
def push (history : History) (byte : UInt8) : History :=
  { history with bytes := history.bytes.push byte }

/-- Adds bytes. -/
def append (history : History) (bytes : List UInt8) : History :=
  bytes.foldl push history

/-- Adds so many bytes, each a repetition of that at the same distance before it. -/
def copy (distance : Nat) : Nat → History → History
  | 0, history => history
  | count + 1, history => copy distance count (history.push (history.back distance))

end History

end Clausal.Xz
