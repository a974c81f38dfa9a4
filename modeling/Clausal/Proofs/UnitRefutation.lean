import Mathlib
import Clausal.Proofs.NaivePropagation

/-!
# Refutation by unit propagation

A valuation is refuted by clauses when unit propagation from it reaches a falsified clause. A clause
follows by units when making all its literals false is refuted; it then holds wherever the clauses do.

The order of propagation does not matter: where some order reaches a falsified clause, rescanning
blames one too.
-/

namespace Clausal

/-- Unit propagation from the valuation reaches a falsified clause. -/
inductive Refutes (clauses : List Clause) : Valuation → Prop
  /-- A clause is falsified. -/
  | falsified {valuation : Valuation} {clause : Clause} (listed : clause ∈ clauses)
      (standing : clause.status valuation = .falsified) : Refutes clauses valuation
  /-- A unit clause gives its literal a value, and a falsified clause is reached from there. -/
  | unit {valuation : Valuation} {clause : Clause} {literal : Literal} (listed : clause ∈ clauses)
      (standing : clause.status valuation = .unit literal)
      (rest : Refutes clauses (valuation.assign literal)) : Refutes clauses valuation

/-- The valuation that makes the literals of a clause false and assigns nothing else. -/
def Clause.denial (clause : Clause) : Valuation :=
  fun var => (clause.literals.find? (·.var == var)).map Literal.negated

/-- Denying every literal of the clause is refuted by unit propagation. -/
def FollowsByUnits (clauses : List Clause) (clause : Clause) : Prop :=
  Refutes clauses clause.denial

/-- What a denial assigns comes from a literal of the clause. -/
theorem Clause.denial_eq_some {clause : Clause} {var : Int} {truth : Bool}
    (held : clause.denial var = some truth) : (⟨var, truth⟩ : Literal) ∈ clause.literals := by
  unfold denial at held
  obtain ⟨literal, found, negated⟩ := Option.map_eq_some_iff.1 held
  have named : literal.var = var := by simpa using List.find?_some found
  have same : literal = ⟨var, truth⟩ := by rw [← named, ← negated]
  rw [← same]
  exact List.mem_of_find?_eq_some found

/-- A denial makes every literal of the clause false. -/
theorem Clause.value_denial {clause : Clause} {literal : Literal}
    (member : literal ∈ clause.literals) : literal.value clause.denial = some false := by
  rw [Literal.value_eq_false_iff]
  cases held : clause.denial literal.var with
  | none =>
    unfold denial at held
    have absent := List.find?_eq_none.1 (Option.map_eq_none_iff.1 held) literal member
    simp at absent
  | some truth =>
    have other := denial_eq_some held
    by_cases same : truth = literal.negated
    · rw [same]
    · have opposite : (⟨literal.var, truth⟩ : Literal) = literal.negate := by
        rw [Bool.eq_not_of_ne same, Literal.negate]
      rw [opposite] at other
      exact absurd other (clause.consistent literal member)

/-- A reading that keeps to a valuation cannot agree with clauses that refute it. -/
theorem Refutes.sound {clauses : List Clause} {valuation : Valuation}
    (refutes : Refutes clauses valuation) {reading : Int → Bool}
    (agrees : ∀ clause ∈ clauses, clause.Holds reading) :
    ¬∀ var truth, valuation var = some truth → reading var = truth := by
  induction refutes with
  | falsified listed standing =>
    intro kept
    exact Clause.not_holds_of_falsified standing kept (agrees _ listed)
  | @unit valuation clause literal listed standing _ ih =>
    intro kept
    obtain ⟨_, _, others⟩ := (Clause.status_eq_unit_iff ..).1 standing
    obtain ⟨held, member, holds⟩ := agrees clause listed
    have same : held = literal := by
      by_contra apart
      have denied := (Literal.value_eq_false_iff ..).1 (others held member apart)
      have value := kept _ _ denied
      unfold Literal.Holds at holds
      simp [value] at holds
    refine ih fun var truth assigned => ?_
    unfold Valuation.assign at assigned
    split at assigned
    · rename_i named
      rw [named, ← Option.some.inj assigned, ← same]
      exact holds
    · exact kept var truth assigned

/-- A clause that follows by units holds wherever the clauses do. -/
theorem FollowsByUnits.holds {clauses : List Clause} {clause : Clause}
    (follows : FollowsByUnits clauses clause) {reading : Int → Bool}
    (agrees : ∀ other ∈ clauses, other.Holds reading) : clause.Holds reading := by
  by_contra fails
  refine Refutes.sound follows agrees fun var truth denied => ?_
  have member := Clause.denial_eq_some denied
  by_contra differs
  refine fails ⟨_, member, ?_⟩
  exact Bool.eq_not_of_ne differs

/-- More clauses refute no less. -/
theorem Refutes.mono {clauses more : List Clause} {valuation : Valuation}
    (refutes : Refutes clauses valuation) (wider : ∀ clause ∈ clauses, clause ∈ more) :
    Refutes more valuation := by
  induction refutes with
  | falsified listed standing => exact .falsified (wider _ listed) standing
  | unit listed standing _ ih => exact .unit (wider _ listed) standing ih

/-- A valuation within one that settles every clause is not refuted. -/
theorem Refutes.not_settled {clauses : List Clause} {valuation final : Valuation}
    (refutes : Refutes clauses valuation) (within : valuation.Within final) :
    ¬∀ clause ∈ clauses, clause.Settled final := by
  induction refutes with
  | falsified listed standing =>
    intro settled
    refine (settled _ listed).1 ((Clause.status_eq_falsified_iff ..).2 fun literal member => ?_)
    exact within.value ((Clause.status_eq_falsified_iff ..).1 standing literal member)
  | unit listed standing _ ih =>
    intro settled
    obtain ⟨_, _, others⟩ := (Clause.status_eq_unit_iff ..).1 standing
    have held := (settled _ listed).value_eq_true fun other member different =>
      within.value (others other member different)
    exact ih (within.assign held) settled

/-- Where unit propagation reaches a falsified clause in some order, rescanning blames a clause on every
trail that assigns as much. -/
theorem Naive.blames_of_refutes {clauses : List Clause} {valuation : Valuation} {trail : Trail}
    (refutes : Refutes clauses valuation) (within : valuation.Within trail.value) :
    ∃ result clause, Naive.propagate clauses trail = .ok result ∧ result.conflict = some clause := by
  obtain ⟨result, finished, sound, complete⟩ := Naive.propagate_eq_ok clauses trail
  cases blamed : result.conflict with
  | some clause => exact ⟨result, clause, finished, blamed⟩
  | none =>
    exact absurd (complete blamed) (refutes.not_settled (within.trans sound.forces.within))

/-- A denial is within every valuation that makes the literals of the clause false. -/
theorem Clause.denial_within {clause : Clause} {valuation : Valuation}
    (denied : ∀ literal ∈ clause.literals, literal.value valuation = some false) :
    clause.denial.Within valuation := by
  intro var truth held
  exact (Literal.value_eq_false_iff ..).1 (denied _ (denial_eq_some held))

/-- Entries that are given, or forced by the entries before them among those picked out, lead unit
propagation to a clause that they falsify. The induction is on the number of entries still to come. -/
theorem refutes_of_needed {clauses : List Clause} {trail : Trail} (coherent : trail.Coherent)
    {given : Valuation} (within : given.Within trail.value) (Needed : Entry → Prop)
    (forced : ∀ entry ∈ trail.entries, Needed entry →
      entry.literal.value given = some true ∨ ∃ clause ∈ clauses, entry.literal ∈ clause.literals ∧
        ∀ literal ∈ clause.literals, literal ≠ entry.literal → ∃ cause ∈ trail.entries,
          Needed cause ∧ cause.literal = literal.negate ∧ cause.index < entry.index)
    {conflict : Clause} (listed : conflict ∈ clauses)
    (denied : ∀ literal ∈ conflict.literals, ∃ cause ∈ trail.entries,
      Needed cause ∧ cause.literal = literal.negate) : Refutes clauses given := by
  suffices walk : ∀ (count : Nat) (current : Valuation), current.Within trail.value →
      given.Within current → (∀ entry ∈ trail.entries, Needed entry →
        entry.index + count < trail.size → entry.literal.value current = some true) →
      count ≤ trail.size → Refutes clauses current from
    walk trail.size given within (.refl given) (fun entry _ _ early => by omega) le_rfl
  intro count
  induction count with
  | zero =>
    intro current _ _ done _
    refine .falsified listed ((Clause.status_eq_falsified_iff ..).2 fun literal member => ?_)
    obtain ⟨cause, present, needed, same⟩ := denied literal member
    have held := done cause present needed (coherent.index_lt present)
    rw [same, Literal.value_negate_eq_true_iff] at held
    exact held
  | succ count ih =>
    intro current inside above done bound
    have position : trail.size - (count + 1) < trail.entries.size := by
      simp only [Trail.size] at bound ⊢
      omega
    have placed := coherent.placed _ _ (Array.getElem?_eq_getElem position)
    have present := Array.getElem_mem position
    generalize trail.entries[trail.size - (count + 1)] = next at placed present
    have advance : ∀ later : Valuation, current.Within later →
        (Needed next → next.literal.value later = some true) →
        ∀ entry ∈ trail.entries, Needed entry → entry.index + count < trail.size →
          entry.literal.value later = some true := by
      intro later grown here entry member needed early
      by_cases same : entry.index = next.index
      · rw [coherent.eq_of_index member present same] at needed ⊢
        exact here needed
      · exact grown.value (done entry member needed (by omega))
    by_cases settled : Needed next → next.literal.value current = some true
    · exact ih current inside above (advance current (.refl current) settled) (by omega)
    · simp only [Classical.not_imp] at settled
      obtain ⟨needed, open_⟩ := settled
      rcases forced next present needed with started | ⟨clause, member, holds, others⟩
      · exact absurd (above.value started) open_
      · have truth := (coherent.valueOf_eq_true_iff next.literal).2 ⟨next, present, rfl⟩
        have free : current next.literal.var = none := by
          cases state : next.literal.value current with
          | none => exact (Literal.value_eq_none_iff ..).1 state
          | some value =>
            have kept := inside.value state
            rw [Trail.valueOf, kept] at truth
            rw [Option.some.inj truth] at state
            exact absurd state open_
        have unit : clause.status current = .unit next.literal := by
          refine (Clause.status_eq_unit_iff ..).2 ⟨holds, free, fun literal inside different => ?_⟩
          obtain ⟨cause, here, also, same, before⟩ := others literal inside different
          have held := done cause here also (by omega)
          rw [same, Literal.value_negate_eq_true_iff] at held
          exact held
        refine .unit member unit (ih _ (inside.assign truth)
          (above.trans (Valuation.within_assign free)) ?_ (by omega))
        exact advance _ (Valuation.within_assign free) fun _ => Valuation.value_assign_self ..

end Clausal
