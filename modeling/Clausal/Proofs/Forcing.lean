import Mathlib
import Clausal.Proofs.Implication

/-!
# Forced literals

Propagation extends a trail by one forced literal after another. The relation `Forces` says so
without telling in which order clauses are looked at, so that every scheme of propagation is judged
by it. A saturated trail is one that was left with nothing to force at each level below the current
one; this is what gives a forced literal a cause at its own level, and a conflict a literal of the
current level.
-/

namespace Clausal

namespace Trail

/-- At every level below the current one each clause is settled. -/
def Saturated (trail : Trail) (clauses : List Clause) : Prop :=
  ∀ level < trail.level, ∀ clause ∈ clauses, clause.Settled (trail.upTo level)

/-- The second trail comes from the first by literals that unit clauses force, one after another. -/
inductive Forces (clauses : List Clause) : Trail → Trail → Prop
  /-- Nothing is forced. -/
  | done (trail : Trail) : Forces clauses trail trail
  /-- A unit clause forces its literal, and more may follow. -/
  | unit {trail final : Trail} {clause : Clause} {literal : Literal} (listed : clause ∈ clauses)
      (forced : clause.status trail.value = .unit literal)
      (rest : Forces clauses (trail.extend literal (some clause)) final) :
      Forces clauses trail final

/-- The literal of a unit clause has no value. -/
theorem free_of_unit {trail : Trail} {clause : Clause} {literal : Literal}
    (forced : clause.status trail.value = .unit literal) : trail.value literal.var = none :=
  ((Clause.status_eq_unit_iff ..).1 forced).2.1

/-- An extension by a literal without a value keeps every value. -/
theorem value_within_extend {trail : Trail} {literal : Literal}
    (free : trail.value literal.var = none) (reason : Option Clause) :
    trail.value.Within (trail.extend literal reason).value := by
  intro var truth held
  unfold value at held ⊢
  rw [entryOf?_extend]
  split
  · rename_i same
    unfold value at free
    rw [← same, free] at held
    simp at held
  · exact held

/-- The value after an extension. -/
theorem value_extend (trail : Trail) (literal : Literal) (reason : Option Clause) :
    (trail.extend literal reason).value = trail.value.assign literal := by
  funext var
  unfold value Valuation.assign
  rw [entryOf?_extend]
  by_cases same : literal.var = var
  · rw [if_pos same, if_pos same.symm]
    rfl
  · rw [if_neg same, if_neg (fun equal => same equal.symm)]

/-- A unit clause of a saturated trail extends the implication graph. Were every other literal false below
the current level, the clause would have been unit there already. -/
theorem Grounded.extend_unit {trail : Trail} {numVars : Nat} {Admitted : Clause → Prop}
    {clauses : List Clause} {clause : Clause} {literal : Literal}
    (grounded : trail.Grounded numVars Admitted) (saturated : trail.Saturated clauses)
    (listed : clause ∈ clauses) (admitted : Admitted clause) (range : clause.InRange numVars)
    (forced : clause.status trail.value = .unit literal) :
    (trail.extend literal (some clause)).Grounded numVars Admitted := by
  obtain ⟨member, free, others⟩ := (Clause.status_eq_unit_iff ..).1 forced
  have coherent := grounded.coherent
  refine grounded.extend free (range literal member) admitted member others fun above => ?_
  by_contra absent
  simp only [not_exists, not_and] at absent
  refine (saturated (trail.level - 1) (by omega) clause listed).2 literal
    ((Clause.status_eq_unit_iff ..).2 ⟨member, ?_, fun other inside different => ?_⟩)
  · rw [coherent.upTo_eq_none_iff]
    intro entry present same
    exact absurd same ((coherent.value_eq_none_iff _).1 free entry present)
  · obtain ⟨cause, present, denied⟩ :=
      (coherent.valueOf_eq_false_iff other).1 (others other inside different)
    have bound := coherent.level_le present
    have apart := absent other inside different cause present denied
    exact (coherent.value_upTo_eq_false_iff ..).2 ⟨cause, present, denied, by omega⟩

/-- An extension at the current level keeps a trail saturated. -/
theorem Saturated.extend {trail : Trail} {clauses : List Clause} (saturated : trail.Saturated clauses)
    {literal : Literal} (free : trail.value literal.var = none) (reason : Option Clause) :
    (trail.extend literal reason).Saturated clauses := by
  intro level below clause listed
  rw [upTo_extend free reason below]
  exact saturated level below clause listed

/-- A decision on a trail where every clause is settled keeps it saturated. -/
theorem Saturated.decide {trail : Trail} {clauses : List Clause} (saturated : trail.Saturated clauses)
    (coherent : trail.Coherent) (settled : ∀ clause ∈ clauses, clause.Settled trail.value)
    {literal : Literal} (free : trail.value literal.var = none) :
    (trail.newLevel.extend literal none).Saturated clauses := by
  intro level below clause listed
  have opened := trail.level_newLevel
  have inside : level < trail.newLevel.level := below
  have unassigned : trail.newLevel.value literal.var = none := free
  rw [upTo_extend unassigned none inside, upTo_newLevel]
  by_cases deeper : level < trail.level
  · exact saturated level deeper clause listed
  · rw [coherent.upTo_level (by omega)]
    exact settled clause listed

/-- Undoing does not touch the levels that remain. -/
theorem Coherent.upTo_undoTo {trail : Trail} (coherent : trail.Coherent) {level lower : Nat}
    (low : lower ≤ level) : (trail.undoTo level).1.upTo lower = trail.upTo lower := by
  rw [← (coherent.undoTo level).value_undoTo]
  funext var
  unfold value upTo
  rw [(coherent.undoTo level).entryOf?_undoTo, coherent.entryOf?_undoTo, Option.filter_filter]
  congr 2
  funext entry
  by_cases inside : entry.level ≤ lower
  · have bound : entry.level ≤ level := by omega
    simp [inside, bound]
  · simp [inside]

/-- Undoing keeps a trail saturated. -/
theorem Saturated.undoTo {trail : Trail} {clauses : List Clause} (saturated : trail.Saturated clauses)
    (coherent : trail.Coherent) (level : Nat) : (trail.undoTo level).1.Saturated clauses := by
  intro lower below clause listed
  rw [level_undoTo] at below
  rw [coherent.upTo_undoTo (by omega)]
  exact saturated lower (by omega) clause listed

namespace Forces

variable {clauses : List Clause} {trail final : Trail}

/-- Forcing goes on from where it stopped. -/
theorem trans {last : Trail} (first : Forces clauses trail final)
    (second : Forces clauses final last) : Forces clauses trail last := by
  induction first with
  | done => exact second
  | unit listed forced _ ih => exact .unit listed forced (ih second)

/-- More clauses force no less. -/
theorem mono {more : List Clause} (forces : Forces clauses trail final)
    (wider : ∀ clause ∈ clauses, clause ∈ more) : Forces more trail final := by
  induction forces with
  | done trail => exact .done trail
  | unit listed forced _ ih => exact .unit (wider _ listed) forced ih

/-- Forcing opens no level. -/
theorem levelStarts_eq (forces : Forces clauses trail final) :
    final.levelStarts = trail.levelStarts := by
  induction forces with
  | done => rfl
  | unit _ _ _ ih => exact ih

/-- Forcing keeps the level. -/
theorem level_eq (forces : Forces clauses trail final) : final.level = trail.level :=
  congrArg Array.size forces.levelStarts_eq

/-- Forcing removes no entry. -/
theorem mem (forces : Forces clauses trail final) :
    ∀ entry ∈ trail.entries, entry ∈ final.entries := by
  induction forces with
  | done => exact fun _ member => member
  | unit _ _ _ ih => exact fun entry member => ih entry (mem_extend.2 (.inl member))

/-- A new entry stands past the old ones, at the current level, and is forced by a clause. -/
theorem new_entry (forces : Forces clauses trail final) : ∀ entry ∈ final.entries,
    entry ∈ trail.entries ∨ (entry.level = trail.level ∧ trail.size ≤ entry.index ∧
      ∃ clause ∈ clauses, entry.reason = some clause) := by
  induction forces with
  | done => exact fun _ member => .inl member
  | @unit trail final clause literal listed _ _ ih =>
    intro entry member
    rcases ih entry member with present | ⟨level, late, forced⟩
    · rcases mem_extend.1 present with old | new
      · exact .inl old
      · refine .inr ?_
        rw [new]
        exact ⟨rfl, le_rfl, clause, listed, rfl⟩
    · refine .inr ⟨level, ?_, forced⟩
      have grown : (trail.extend literal (some clause)).size = trail.size + 1 := by
        simp [size, Trail.extend]
      omega

/-- Forcing keeps every value. -/
theorem within (forces : Forces clauses trail final) : trail.value.Within final.value := by
  induction forces with
  | done trail => exact .refl _
  | unit _ forced _ ih => exact (value_within_extend (free_of_unit forced) _).trans ih

/-- Forcing keeps a trail coherent. -/
theorem coherent (forces : Forces clauses trail final) (start : trail.Coherent) :
    final.Coherent := by
  induction forces with
  | done => exact start
  | unit _ forced _ ih => exact ih (start.extend (free_of_unit forced) _)

/-- Forcing keeps a trail saturated with respect to any clauses. -/
theorem saturated {others : List Clause} (forces : Forces clauses trail final)
    (start : trail.Saturated others) : final.Saturated others := by
  induction forces with
  | done => exact start
  | unit _ forced _ ih => exact ih (start.extend (free_of_unit forced) _)

/-- Forcing by admitted clauses keeps the implication graph of a saturated trail. -/
theorem grounded {numVars : Nat} {Admitted : Clause → Prop} (forces : Forces clauses trail final)
    (admitted : ∀ clause ∈ clauses, Admitted clause)
    (range : ∀ clause ∈ clauses, clause.InRange numVars)
    (start : trail.Grounded numVars Admitted) (saturated : trail.Saturated clauses) :
    final.Grounded numVars Admitted := by
  induction forces with
  | done => exact start
  | unit listed forced _ ih =>
    exact ih (start.extend_unit saturated listed (admitted _ listed) (range _ listed) forced)
      (saturated.extend (free_of_unit forced) _)

end Forces

/-- A clause that is falsified on a saturated trail has a literal of the current level. -/
theorem Grounded.exists_current {trail : Trail} {numVars : Nat} {Admitted : Clause → Prop}
    {clauses : List Clause} {clause : Clause} (grounded : trail.Grounded numVars Admitted)
    (saturated : trail.Saturated clauses) (listed : clause ∈ clauses)
    (falsified : clause.status trail.value = .falsified) (above : 0 < trail.level) :
    ∃ literal ∈ clause.literals, ∃ entry ∈ trail.entries, entry.literal = literal.negate ∧
      entry.level = trail.level := by
  have coherent := grounded.coherent
  by_contra absent
  simp only [not_exists, not_and] at absent
  refine (saturated (trail.level - 1) (by omega) clause listed).1
    ((Clause.status_eq_falsified_iff ..).2 fun literal member => ?_)
  have denied := (Clause.status_eq_falsified_iff ..).1 falsified literal member
  obtain ⟨entry, present, same⟩ := (coherent.valueOf_eq_false_iff literal).1 denied
  have bound := coherent.level_le present
  have apart := absent literal member entry present same
  exact (coherent.value_upTo_eq_false_iff ..).2 ⟨entry, present, same, by omega⟩

end Trail

end Clausal
