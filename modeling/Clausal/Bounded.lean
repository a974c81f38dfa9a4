/-!
# Bounded iteration

A loop whose number of rounds has a bound, but one too large to be counted down from: the bound is
given as a number of doublings. The loop runs one round, then two, then four, and stops at the first
round that finishes, so a short run never pays for a large bound. The rounds of the first `doublings`
phases are 2 to the `doublings`, less one.
-/

namespace Clausal

/-- What a round of a loop comes to. -/
inductive Round (state result : Type) where
  /-- The loop goes on. -/
  | running (next : state)
  /-- The loop has ended. -/
  | finished (value : result)

namespace Round

variable {state result : Type}

/-- At most 2 to the `exponent` rounds. -/
def repeatDoubled (round : state → Round state result) : Nat → state → Round state result
  | 0, current => round current
  | exponent + 1, current =>
    match repeatDoubled round exponent current with
    | running next => repeatDoubled round exponent next
    | finished value => finished value

/-- Phases of 2 to the `exponent` rounds, the exponent growing by one each time. -/
def phases (round : state → Round state result) :
    Nat → Nat → state → Round state result
  | 0, _, current => running current
  | remaining + 1, exponent, current =>
    match repeatDoubled round exponent current with
    | running next => phases round remaining (exponent + 1) next
    | finished value => finished value

/-- At most 2 to the `doublings` rounds, less one. -/
def within (round : state → Round state result) (doublings : Nat) (start : state) :
    Round state result :=
  phases round doublings 0 start

/-- The given number of rounds, one by one. -/
def counted (round : state → Round state result) : Nat → state → Round state result
  | 0, current => running current
  | count + 1, current =>
    match round current with
    | running next => counted round count next
    | finished value => finished value

/-- Counted rounds add up. -/
theorem counted_add (round : state → Round state result) (first second : Nat) (current : state) :
    counted round (first + second) current =
      match counted round first current with
      | running next => counted round second next
      | finished value => finished value := by
  induction first generalizing current with
  | zero => simp [counted]
  | succ first ih =>
    rw [Nat.succ_add]
    simp only [counted]
    cases round current with
    | running next => exact ih next
    | finished value => rfl

/-- A doubled repetition is a counted one. -/
theorem repeatDoubled_eq_counted (round : state → Round state result) (exponent : Nat)
    (current : state) :
    repeatDoubled round exponent current = counted round (Nat.pow 2 exponent) current := by
  induction exponent generalizing current with
  | zero =>
    show round current = counted round 1 current
    simp only [counted]
    cases round current <;> rfl
  | succ exponent ih =>
    show repeatDoubled round (exponent + 1) current =
      counted round (Nat.pow 2 exponent * 2) current
    rw [Nat.mul_two, counted_add]
    simp only [repeatDoubled, ih]

/-- Phases are counted rounds. -/
theorem phases_eq_counted (round : state → Round state result) (remaining exponent : Nat)
    (current : state) :
    phases round remaining exponent current =
      counted round (Nat.pow 2 (exponent + remaining) - Nat.pow 2 exponent) current := by
  induction remaining generalizing exponent current with
  | zero => simp [phases, counted]
  | succ remaining ih =>
    have grows : Nat.pow 2 (exponent + 1) ≤ Nat.pow 2 (exponent + 1 + remaining) :=
      Nat.pow_le_pow_right (by decide) (by omega)
    have doubled : Nat.pow 2 (exponent + 1) = Nat.pow 2 exponent + Nat.pow 2 exponent :=
      Nat.mul_two (Nat.pow 2 exponent)
    have rounds : Nat.pow 2 (exponent + (remaining + 1)) - Nat.pow 2 exponent =
        Nat.pow 2 exponent +
          (Nat.pow 2 (exponent + 1 + remaining) - Nat.pow 2 (exponent + 1)) := by
      rw [show exponent + (remaining + 1) = exponent + 1 + remaining by omega]
      have positive : 0 < Nat.pow 2 exponent := Nat.two_pow_pos exponent
      generalize Nat.pow 2 (exponent + 1 + remaining) = last at *
      generalize Nat.pow 2 (exponent + 1) = next at *
      generalize Nat.pow 2 exponent = unit at *
      omega
    rw [rounds, counted_add]
    simp only [phases, repeatDoubled_eq_counted, ih]

/-- A bounded loop is the loop counted up to its bound. -/
theorem within_eq_counted (round : state → Round state result) (doublings : Nat)
    (start : state) :
    within round doublings start = counted round (Nat.pow 2 doublings - 1) start := by
  rw [within, phases_eq_counted, Nat.zero_add]

end Round

end Clausal
