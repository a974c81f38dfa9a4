import Clausal.Trail

/-!
# Propagation by rescanning

Every clause is looked at in order; a unit clause assigns its literal at once, so later clauses of
the same pass already see it. Passes are repeated until one assigns nothing or some clause is
falsified. A pass that assigns leaves fewer literal occurrences without a value, which is why the
passes come to an end.
-/

namespace Clausal

/-- The result of looking for forced literals. -/
structure Propagated where
  /-- The trail with the forced literals. -/
  trail : Trail
  /-- How many literals were forced. -/
  forced : Nat
  /-- The falsified clause that ended the search, if one did. -/
  conflict : Option Clause

namespace Naive

/-- The number of literal occurrences without a value. -/
def freeOccurrences (clauses : List Clause) (trail : Trail) : Nat :=
  (clauses.flatMap Clause.literals).countP fun literal => !trail.isAssigned literal.var

/-- One pass over the clauses. -/
def pass : List Clause → Trail → Except Fault Propagated
  | [], trail => .ok ⟨trail, 0, none⟩
  | clause :: rest, trail =>
    match clause.status trail.value with
    | .falsified => .ok ⟨trail, 0, some clause⟩
    | .unit literal =>
      match trail.push literal (some clause) with
      | .error fault => .error fault
      | .ok extended =>
        (pass rest extended).map fun result => { result with forced := result.forced + 1 }
    | _ => pass rest trail

/-- What a successful pass does to the set of assigned variables: none is lost, and a pass that
forces a literal gives a value to a variable of the clauses that had none. -/
theorem pass_assigns {clauses : List Clause} {trail : Trail} {result : Propagated}
    (passed : pass clauses trail = .ok result) :
    (∀ var, trail.isAssigned var = true → result.trail.isAssigned var = true) ∧
      (result.forced ≠ 0 → ∃ literal ∈ clauses.flatMap Clause.literals,
        trail.isAssigned literal.var = false ∧ result.trail.isAssigned literal.var = true) := by
  induction clauses generalizing trail result with
  | nil =>
    cases passed
    simp
  | cons clause rest ih =>
    rw [pass] at passed
    split at passed
    · cases passed
      simp
    · rename_i literal unit
      obtain ⟨member, free⟩ := Clause.mem_of_status_unit unit
      split at passed
      · simp at passed
      · rename_i extended pushed
        cases remaining : pass rest extended with
        | error fault => simp [remaining, Except.map] at passed
        | ok after =>
          simp only [remaining, Except.map, Except.ok.injEq] at passed
          subst passed
          obtain ⟨kept, _⟩ := ih remaining
          refine ⟨fun var assigned => kept var (Trail.isAssigned_of_push pushed assigned),
            fun _ => ⟨literal, ?_, ?_, kept _ (Trail.isAssigned_push_self pushed)⟩⟩
          · simp [member]
          · exact (Trail.isAssigned_eq_false_iff trail literal.var).2 free
    · obtain ⟨kept, progress⟩ := ih passed
      refine ⟨kept, fun forced => ?_⟩
      obtain ⟨literal, member, free, assigned⟩ := progress forced
      refine ⟨literal, ?_, free, assigned⟩
      rw [List.flatMap_cons]
      exact List.mem_append_right _ member

/-- A pass that forces a literal leaves fewer occurrences without a value. -/
theorem freeOccurrences_lt {clauses : List Clause} {trail : Trail} {result : Propagated}
    (passed : pass clauses trail = .ok result) (forced : result.forced ≠ 0) :
    freeOccurrences clauses result.trail < freeOccurrences clauses trail := by
  obtain ⟨kept, progress⟩ := pass_assigns passed
  obtain ⟨literal, member, free, assigned⟩ := progress forced
  obtain ⟨before, after, split⟩ := List.append_of_mem member
  have weaker : ∀ other : Literal,
      (!result.trail.isAssigned other.var) = true → (!trail.isAssigned other.var) = true := by
    intro other open_
    cases state : trail.isAssigned other.var with
    | false => rfl
    | true => simp [kept other.var state] at open_
  unfold freeOccurrences
  rw [split, List.countP_append, List.countP_append, List.countP_cons, List.countP_cons]
  have left := List.countP_mono_left (l := before) fun other _ => weaker other
  have right := List.countP_mono_left (l := after) fun other _ => weaker other
  simp only [free, assigned, Bool.not_true, Bool.not_false, if_true, Bool.false_eq_true, if_false]
  omega

/-- Repeats passes until one forces nothing or meets a falsified clause. -/
def propagate (clauses : List Clause) (trail : Trail) : Except Fault Propagated :=
  match passed : pass clauses trail with
  | .error fault => .error fault
  | .ok result =>
    if result.conflict.isSome then .ok result
    else if forced : result.forced = 0 then .ok result
    else (propagate clauses result.trail).map fun after =>
      { after with forced := result.forced + after.forced }
termination_by freeOccurrences clauses trail
decreasing_by exact freeOccurrences_lt passed forced

end Naive

end Clausal
