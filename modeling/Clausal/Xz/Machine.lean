import Clausal.Xz.Symbol

/-!
# Carrying out symbols

Symbols are read and carried out one after another, until so many bytes have been unpacked as were
announced, or up to the mark for the end. What was carried out before the packed bytes end too early, or
turn out wrong, is kept.
-/

namespace Clausal.Xz

/-- Everything that symbols leave behind. -/
structure Machine where
  /-- What the odds depend on. -/
  properties : Properties
  /-- The odds of every kind of bit. -/
  odds : Array UInt32
  /-- What is remembered of the symbols themselves. -/
  past : Past
  /-- The bytes unpacked so far. -/
  history : History

namespace Machine

/-- Forgets everything but the unpacked bytes. -/
def reset (properties : Properties) (history : History) : Machine :=
  ⟨properties, Array.replicate (Kind.count properties) evenOdds, .start, history⟩

/-- The ending at the end of the symbols: nothing may be left in the range. -/
def close (range : Range) : Ending :=
  match range.widened with
  | .error stop => .stopped stop
  | .ok settled => if settled.isSpent then .finished settled.rest else .stopped (.refused .data)

/-- Carries out a symbol that adds bytes, at most so many; whether all of them were added. -/
def perform (history : History) (most : Option Nat) : Symbol → History × Bool
  | .endMark => (history, false)
  | .literal byte => if most = some 0 then (history, false) else (history.push byte, true)
  | .copy distance length =>
    if !history.reaches distance then (history, false)
    else
      let allowed := (most.map (min length)).getD length
      (history.copy distance allowed, allowed = length)

/-- What is left of an announced number of bytes. -/
def left (announced : Option Nat) (history : History) : Option Nat :=
  announced.map (· - history.bytes.size)

/-- The ending behind the announced bytes, once they are all there. If nothing is wrong with it but what
is left in the range, the mark for the end may still follow where it is allowed. -/
def atEnd? (markAllowed : Bool) (remaining : Option Nat) (range : Range) : Option Ending :=
  if remaining ≠ some 0 then none
  else match close range with
    | .stopped (.refused refusal) =>
      if markAllowed then none else some (.stopped (.refused refusal))
    | ending => some ending

/-- Reads and carries out at most so many symbols, up to an announced number of unpacked bytes. The mark
for the end may stand where no number is announced, and behind that many bytes if it is allowed
there. -/
def run (markAllowed : Bool) (announced : Option Nat) : Nat → Range → Machine → Machine × Ending
  | 0, _, machine => (machine, .stopped (.refused .data))
  | fuel + 1, range, machine =>
    let remaining := left announced machine.history
    match atEnd? markAllowed remaining range with
    | some ending => (machine, ending)
    | none =>
      match machine with
      | ⟨properties, odds, past, history⟩ =>
        match Decoding.symbol properties history past ⟨range, odds⟩ with
        | .error stop => (reset properties history, .stopped stop)
        | .ok ((.endMark, past), coder) =>
          (⟨properties, coder.odds, past, history⟩,
            if remaining.getD 0 = 0 then close coder.range else .stopped (.refused .data))
        | .ok ((found, past), coder) =>
          match perform history remaining found with
          | (history, false) =>
            (⟨properties, coder.odds, past, history⟩, .stopped (.refused .data))
          | (history, true) =>
            run markAllowed announced fuel coder.range ⟨properties, coder.odds, past, history⟩

/-- A number of symbols that so many packed bytes cannot hold: every symbol takes up more than a
hundredth of a byte. -/
def symbolBound (packed : Nat) : Nat :=
  128 * (packed + 8)

/-- Unpacks the symbols at the front of packed bytes. -/
def unpack (markAllowed : Bool) (announced : Option Nat) (machine : Machine) (packed : List UInt8) :
    Machine × Ending :=
  match Range.start packed with
  | .error stop => (machine, .stopped stop)
  | .ok (range, _) => run markAllowed announced (symbolBound packed.length) range machine

end Machine

end Clausal.Xz
