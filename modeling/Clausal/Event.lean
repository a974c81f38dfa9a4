import Clausal.Solver

/-!
# What a step did

The course of a search told step by step. What a step did can be read off the solver before and the
solver after it, so the search itself keeps no record.
-/

namespace Clausal

/-- Something that happened in a step of a search. -/
inductive Event where
  /-- A clause was found falsified at a level. -/
  | conflict (clause : Clause) (level : Nat)
  /-- A literal was decided and opened a level. -/
  | decision (literal : Literal) (level : Nat)
  /-- A conflict did not depend on any decision. -/
  | refuted
  /-- The answer to a conflict passed over levels. -/
  | skipped (levels : Nat)
  /-- A clause was learned. -/
  | learned (clause : Clause)
  /-- The search went back to a level and asserted a literal there. -/
  | backjump (level : Nat) (asserting : Literal)
deriving DecidableEq

namespace Event

/-- The event in words. -/
def text : Event → String
  | conflict clause level => s!"conflict on {clause.text} at level {level}"
  | decision literal level => s!"decide {literal.text} at level {level}"
  | refuted => "conflict at level 0, formula is unsatisfiable"
  | skipped levels => s!"backjump skips {levels} level(s)"
  | learned clause => s!"learned {clause.text}"
  | backjump level asserting => s!"backjump to level {level}, asserting {asserting.text}"

/-- The events of going back from a conflict: levels passed over are told by the variant that only
jumps, a learned clause by the variant that learns. -/
def ofAnswer (before after : Solver) : List Event :=
  let passedOver := before.trail.level - after.trail.level - 1
  let skips := if before.variant = .backjump ∧ 0 < passedOver then [skipped passedOver] else []
  let learns := if before.formula.learned.length < after.formula.learned.length then
    (after.formula.learned.getLast?.map learned).toList else []
  let asserts := (after.trail.entries.back?.map fun entry =>
    backjump after.trail.level entry.literal).toList
  skips ++ learns ++ asserts

/-- What happened in the step from one solver to the next. -/
def between (before after : Solver) : List Event :=
  match before.phase, after.phase with
  | .searching, .conflicting clause => [conflict clause after.trail.level]
  | .searching, .searching =>
    (after.trail.entries.back?.map fun entry => decision entry.literal after.trail.level).toList
  | .conflicting _, .refuted => [refuted]
  | .conflicting _, .searching => ofAnswer before after
  | _, _ => []

end Event

end Clausal
