import Clausal.Mean

/-!
# Memory in use

While a search runs, the memory of its process is looked at again and again. What counts is how far
each reading lies above the first one, in kilobytes; a reading below the first one counts as zero. The
process is bound to one processor meanwhile and set free again at the end, if the processors that it had
can be found out.
-/

namespace Clausal.Memory

/-- A size in bytes as kilobytes. -/
def kilobytes (bytes : Int) : Float :=
  Binary64.ofQuotient bytes 1024

/-- How far a usage lies above the baseline. -/
def above (baseline usage : Float) : Float :=
  let difference := usage - baseline
  if difference > 0.0 then difference else 0.0

/-- What the readings of one search come to. -/
structure Usage where
  /-- The first reading. -/
  baseline : Float
  /-- How far each further reading lies above it. -/
  samples : List Float
  /-- The smallest sample. -/
  least : Float
  /-- The mean of the samples. -/
  mean : Float
  /-- The largest sample. -/
  greatest : Float

namespace Usage

/-- The usage of a first reading and further ones, in bytes. Without further readings there is one
sample of zero. -/
def ofReadings (first : Int) (further : List Int) : Usage :=
  let baseline := kilobytes first
  let samples := further.map fun bytes => above baseline (kilobytes bytes)
  let numbers := if samples.isEmpty then [.real 0.0] else samples.map Number.real
  { baseline := baseline
    samples := samples
    least := (Number.smallestOf numbers).toFloat
    mean := (Number.mean numbers).toFloat
    greatest := (Number.largestOf numbers).toFloat }

end Usage

/-- A request about the processors of a process. -/
inductive AffinityCall where
  /-- Asks for the processors. -/
  | ask
  /-- Binds the process to processors. -/
  | bind (processors : List Int)
deriving DecidableEq

/-- The requests made around a search, given the processors of the process if they can be found out.
A request to set the process free is made even if it is refused. -/
def affinityCalls : Option (List Int) → List AffinityCall
  | none => []
  | some processors => [.ask, .bind [0], .bind processors]

end Clausal.Memory
