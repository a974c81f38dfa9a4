import Mathlib
import Clausal.Propagation.Naive
import Clausal.Proofs.Forcing

/-!
# Rescanning is sound and complete

What propagation has to give is stated once for every scheme. A result is sound when its trail comes
from the given one by forced literals, which it counts, and when the clause it blames is falsified. It
is complete when it blames a clause or leaves every clause settled. Rescanning reaches both without
being refused, from every trail.
-/

namespace Clausal

namespace Propagated

/-- The result comes from the trail by literals that the clauses force. -/
structure Sound (result : Propagated) (clauses : List Clause) (trail : Trail) : Prop where
  /-- Each new entry is forced by a unit clause. -/
  forces : trail.Forces clauses result.trail
  /-- The forced literals are counted. -/
  counted : result.trail.size = trail.size + result.forced
  /-- A blamed clause is one of the clauses and is falsified. -/
  blamed : ∀ clause, result.conflict = some clause →
    clause ∈ clauses ∧ clause.status result.trail.value = .falsified

/-- Nothing is left to be forced unless a clause is blamed. -/
def Complete (result : Propagated) (clauses : List Clause) : Prop :=
  result.conflict = none → ∀ clause ∈ clauses, clause.Settled result.trail.value

/-- A result of some of the clauses is one of all of them. -/
theorem Sound.mono {result : Propagated} {clauses more : List Clause} {trail : Trail}
    (sound : result.Sound clauses trail) (wider : ∀ clause ∈ clauses, clause ∈ more) :
    result.Sound more trail := by
  refine ⟨sound.forces.mono wider, sound.counted, fun clause blamed => ?_⟩
  obtain ⟨listed, falsified⟩ := sound.blamed clause blamed
  exact ⟨wider clause listed, falsified⟩

/-- Finding nothing to force is sound. -/
theorem sound_none (clauses : List Clause) (trail : Trail) :
    Sound ⟨trail, 0, none⟩ clauses trail :=
  ⟨.done trail, rfl, fun clause blamed => by simp at blamed⟩

/-- Blaming a falsified clause is sound. -/
theorem sound_blame {clauses : List Clause} {trail : Trail} {clause : Clause}
    (listed : clause ∈ clauses) (falsified : clause.status trail.value = .falsified) :
    Sound ⟨trail, 0, some clause⟩ clauses trail := by
  refine ⟨.done trail, rfl, fun other blamed => ?_⟩
  have same : clause = other := by simpa using blamed
  subst same
  exact ⟨listed, falsified⟩

/-- Forcing one literal before a sound result is sound. -/
theorem Sound.cons {result : Propagated} {clauses : List Clause} {trail : Trail} {clause : Clause}
    {literal : Literal} (listed : clause ∈ clauses)
    (forced : clause.status trail.value = .unit literal)
    (sound : result.Sound clauses (trail.extend literal (some clause))) :
    Sound { result with forced := result.forced + 1 } clauses trail := by
  refine ⟨.unit listed forced sound.forces, ?_, sound.blamed⟩
  have counted := sound.counted
  have grown : (trail.extend literal (some clause)).size = trail.size + 1 := by
    simp [Trail.size, Trail.extend]
  simp only
  omega

/-- Sound results in a row are sound. -/
theorem Sound.append {first second : Propagated} {clauses : List Clause} {trail : Trail}
    (before : first.Sound clauses trail) (after : second.Sound clauses first.trail) :
    Sound { second with forced := first.forced + second.forced } clauses trail := by
  refine ⟨before.forces.trans after.forces, ?_, after.blamed⟩
  have left := before.counted
  have right := after.counted
  simp only
  omega

end Propagated

namespace Naive

/-- A pass is never refused, is sound, and finds every clause settled when it forces and blames
nothing. -/
theorem pass_eq_ok (clauses : List Clause) (trail : Trail) :
    ∃ result, pass clauses trail = .ok result ∧ result.Sound clauses trail ∧
      (result.conflict = none → result.forced = 0 →
        result.trail = trail ∧ ∀ clause ∈ clauses, clause.Settled trail.value) := by
  induction clauses generalizing trail with
  | nil => exact ⟨⟨trail, 0, none⟩, rfl, Propagated.sound_none _ _, fun _ _ => ⟨rfl, by simp⟩⟩
  | cons clause rest ih =>
    have widen : ∀ other ∈ rest, other ∈ clause :: rest := fun other => List.mem_cons_of_mem _
    have passOver : clause.Settled trail.value → pass (clause :: rest) trail = pass rest trail →
        ∃ result, pass (clause :: rest) trail = .ok result ∧
          result.Sound (clause :: rest) trail ∧ (result.conflict = none → result.forced = 0 →
            result.trail = trail ∧ ∀ other ∈ clause :: rest, other.Settled trail.value) := by
      intro here skipped
      obtain ⟨result, passed, sound, settled⟩ := ih trail
      refine ⟨result, skipped.trans passed, sound.mono widen, fun clean idle => ?_⟩
      obtain ⟨same, others⟩ := settled clean idle
      exact ⟨same, List.forall_mem_cons.2 ⟨here, others⟩⟩
    cases standing : clause.status trail.value with
    | falsified =>
      refine ⟨⟨trail, 0, some clause⟩, by simp [pass, standing],
        Propagated.sound_blame List.mem_cons_self standing, fun clean => ?_⟩
      simp at clean
    | unit literal =>
      obtain ⟨result, passed, sound, _⟩ := ih (trail.extend literal (some clause))
      refine ⟨{ result with forced := result.forced + 1 }, ?_,
        (sound.mono widen).cons List.mem_cons_self standing, fun _ idle => ?_⟩
      · rw [pass, standing]
        simp only [Trail.push_eq_extend (Trail.free_of_unit standing), passed, Except.map]
      · simp at idle
    | satisfied => exact passOver (by simp [Clause.Settled, standing]) (by simp [pass, standing])
    | unresolved => exact passOver (by simp [Clause.Settled, standing]) (by simp [pass, standing])

/-- Rescanning is never refused, is sound and is complete. -/
theorem propagate_eq_ok (clauses : List Clause) (trail : Trail) :
    ∃ result, propagate clauses trail = .ok result ∧ result.Sound clauses trail ∧
      result.Complete clauses := by
  fun_induction propagate clauses trail with
  | case1 trail fault failed =>
    obtain ⟨result, passed, _⟩ := pass_eq_ok clauses trail
    rw [failed] at passed
    simp at passed
  | case2 trail result passed blamed =>
    obtain ⟨other, again, sound, _⟩ := pass_eq_ok clauses trail
    rw [passed] at again
    cases again
    refine ⟨result, rfl, sound, fun clean => ?_⟩
    simp [clean] at blamed
  | case3 trail result passed blamed idle =>
    obtain ⟨other, again, sound, settled⟩ := pass_eq_ok clauses trail
    rw [passed] at again
    cases again
    refine ⟨result, rfl, sound, fun clean => ?_⟩
    obtain ⟨same, all⟩ := settled clean idle
    rw [same]
    exact all
  | case4 trail result passed blamed forced ih =>
    obtain ⟨other, again, sound, _⟩ := pass_eq_ok clauses trail
    rw [passed] at again
    cases again
    obtain ⟨after, finished, rest, complete⟩ := ih
    refine ⟨{ after with forced := result.forced + after.forced }, ?_, sound.append rest, complete⟩
    simp [finished, Except.map]

end Naive

end Clausal
