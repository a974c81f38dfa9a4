import Mathlib
import Clausal.Session
import Clausal.Proofs.SearchInvariant

/-!
# Sessions without discipline

A search propagates before it decides, tells its propagator of each undoing and learns what a conflict
implies. A session need not: literals are pushed with reasons that explain nothing, levels are undone
behind the propagator's back, propagation goes on after a conflict, and any clause is learned under any
trail. Completeness is lost then, since the queue may stand past entries that were never worked off and
both watches of a clause may be false.

Two things are not lost. The trail stays coherent, and the watch lists look after every clause that was
handed over, each once. This is the invariant `InOrder`; each command keeps it, refused commands included.
Propagation needs nothing more to be sound: it is never refused, forces only what a unit clause forces,
counts what it forces and blames only what is falsified.
-/

namespace Clausal

/-- The engine is one of the scheme and looks after the clauses. Rescanning keeps nothing; watching has
its lists in order. -/
inductive Engine.Serves : Engine → Propagation → List Clause → Prop
  /-- Rescanning is given the clauses on every call. -/
  | naive (clauses : List Clause) : Serves .naive .naive clauses
  /-- The watch lists look after the clauses. -/
  | watched {lists : WatchLists} {clauses : List Clause} (linked : lists.Linked clauses) :
      Serves (.watched lists) .watched clauses

namespace Propagator

/-- A scheme at the start of its work looks after the clauses of the formula. -/
theorem serves_start (scheme : Propagation) (formula : Formula) :
    (start scheme formula).engine.Serves scheme formula.allClauses := by
  cases scheme with
  | naive => exact .naive _
  | watched => exact .watched (WatchLists.linked_ofClauses _)

variable {propagator : Propagator} {scheme : Propagation} {clauses : List Clause}

/-- A learned clause is looked after from then on. -/
theorem serves_attach (serves : propagator.engine.Serves scheme clauses) (clause : Clause)
    (trail : Trail) : (propagator.attach clause trail).engine.Serves scheme (clauses ++ [clause]) := by
  obtain ⟨engine, propagations⟩ := propagator
  cases serves with
  | naive => exact .naive _
  | watched linked => exact .watched (linked.attach clause trail)

/-- Cutting the queue back changes nothing about the clauses. -/
theorem serves_backtracked (serves : propagator.engine.Serves scheme clauses) (trail : Trail) :
    (propagator.backtracked trail).engine.Serves scheme clauses := by
  obtain ⟨engine, propagations⟩ := propagator
  cases serves with
  | naive => exact .naive _
  | watched linked => exact .watched (linked.backtracked trail)

/-- On every coherent trail propagation is not refused, goes on looking after the clauses, counts what it
forces and is sound. -/
theorem propagate_serves {formula : Formula} {trail : Trail} (coherent : trail.Coherent)
    (serves : propagator.engine.Serves scheme formula.allClauses) :
    ∃ (next : Propagator) (result : Propagated),
      propagator.propagate formula trail = .ok (next, result.trail, result.conflict) ∧
      next.engine.Serves scheme formula.allClauses ∧
      next.propagations = propagator.propagations + result.forced ∧
      result.Sound formula.allClauses trail := by
  obtain ⟨engine, propagations⟩ := propagator
  cases serves with
  | naive =>
    obtain ⟨result, finished, sound, _⟩ := Naive.propagate_eq_ok formula.allClauses trail
    exact ⟨_, result, by simp only [propagate, finished]; rfl, .naive _, rfl, sound⟩
  | watched linked =>
    obtain ⟨result, finished, ordered, sound⟩ := WatchLists.propagate_eq_ok coherent linked
    exact ⟨_, result.propagated, by simp only [propagate, finished]; rfl, .watched ordered, rfl, sound⟩

end Propagator

/-- What forcing appends: entries of the current level, each with a clause as its reason that holds its
literal and whose other literals are false from earlier places. -/
theorem Trail.Forces.exists_added {clauses : List Clause} {trail final : Trail}
    (forces : trail.Forces clauses final) (coherent : trail.Coherent) :
    ∃ added, final.entries.toList = trail.entries.toList ++ added ∧
      ∀ entry ∈ added, entry.level = trail.level ∧
        ∃ reason ∈ clauses, entry.reason = some reason ∧ entry.literal ∈ reason.literals ∧
          ∀ literal ∈ reason.literals, literal ≠ entry.literal →
            ∃ cause ∈ final.entries, cause.literal = literal.negate ∧ cause.index < entry.index := by
  induction forces with
  | done => exact ⟨[], by simp, by simp⟩
  | @unit trail final clause literal listed forced rest ih =>
    obtain ⟨member, free, others⟩ := (Clause.status_eq_unit_iff ..).1 forced
    obtain ⟨added, appended, explained⟩ := ih (coherent.extend free _)
    refine ⟨⟨literal, trail.level, some clause, trail.size⟩ :: added, ?_,
      List.forall_mem_cons.2 ⟨⟨rfl, clause, listed, rfl, member, fun other inside different => ?_⟩,
        explained⟩⟩
    · rw [appended]
      simp [Trail.extend]
    · obtain ⟨cause, present, denies⟩ :=
        (coherent.valueOf_eq_false_iff other).1 (others other inside different)
      have kept := rest.mem cause (mem_extend.2 (.inl present))
      exact ⟨cause, kept, denies, coherent.index_lt present⟩

/-- Going back to a level given as any integer keeps a trail coherent. -/
theorem Trail.Coherent.undo {trail next : Trail} (coherent : trail.Coherent) {level : Int}
    {removed : List Entry} (undone : trail.undo level = .ok (next, removed)) : next.Coherent := by
  have performed : trail.perform (.undo level) = .ok next := by
    simp only [Trail.perform, undone]
    rfl
  exact coherent.perform performed

namespace Session

/-- The clause that a command hands over to be looked after: one to be learned that keeps within the
variables. -/
def Command.handsOver (count : Nat) : Command → Option Clause
  | .learn clause => if clause.InRange count then some clause.asLearnt else none
  | _ => none

/-- The trail is coherent, and the propagator looks after the clauses of the formula, which are those
given so far. -/
structure InOrder (session : Session) (count : Nat) (scheme : Propagation) (given : List Clause) :
    Prop where
  /-- The parts of the trail agree. -/
  coherent : session.trail.Coherent
  /-- The variables stay. -/
  numVars : session.formula.numVars = count
  /-- The formula has the clauses given so far. -/
  clauses : session.formula.allClauses = given
  /-- The propagator looks after them. -/
  serves : session.propagator.engine.Serves scheme given

/-- A session starts in order. -/
theorem inOrder_start (formula : Formula) (strategy : Strategy) (scheme : Propagation) :
    (start formula strategy scheme).InOrder formula.numVars scheme formula.allClauses :=
  ⟨Trail.coherent_empty, rfl, rfl, Propagator.serves_start scheme formula⟩

namespace InOrder

variable {session : Session} {count : Nat} {scheme : Propagation} {given : List Clause}
  (inOrder : session.InOrder count scheme given)
include inOrder

/-- Another coherent trail keeps a session in order. -/
theorem withTrail {trail : Trail} (coherent : trail.Coherent) :
    InOrder { session with trail := trail } count scheme given :=
  ⟨coherent, inOrder.numVars, inOrder.clauses, inOrder.serves⟩

/-- A decision, refused or not, keeps a session in order. -/
theorem decide (literal : Literal) : (session.decide literal).1.InOrder count scheme given := by
  simp only [Session.decide]
  split
  · exact inOrder.withTrail inOrder.coherent.newLevel
  · rename_i pushed
    exact inOrder.withTrail (inOrder.coherent.newLevel.push pushed)

/-- In a session in order propagation is not refused and is sound, and the propagator goes on looking
after the clauses. -/
theorem propagates :
    ∃ (next : Propagator) (result : Propagated),
      session.propagator.propagate session.formula session.trail =
        .ok (next, result.trail, result.conflict) ∧
      next.engine.Serves scheme given ∧
      next.propagations = session.propagator.propagations + result.forced ∧
      result.Sound given session.trail := by
  have serves := inOrder.serves
  rw [← inOrder.clauses] at serves ⊢
  exact Propagator.propagate_serves inOrder.coherent serves

/-- Propagation keeps a session in order. -/
theorem propagate : (session.apply .propagate).1.InOrder count scheme given := by
  obtain ⟨next, result, propagated, serves, _, sound⟩ := inOrder.propagates
  simp only [apply, propagated]
  exact ⟨sound.forces.coherent inOrder.coherent, inOrder.numVars, inOrder.clauses, serves⟩

/-- Learning hands over the clause if it keeps within the variables, and is refused otherwise. -/
theorem learn (clause : Clause) :
    (session.apply (.learn clause)).1.InOrder count scheme
      (given ++ ((Command.learn clause).handsOver count).toList) := by
  have numVars := inOrder.numVars
  cases added : session.formula.addLearned clause with
  | error fault =>
    have stray : ¬clause.InRange count := by
      intro range
      rw [← numVars] at range
      obtain ⟨grown, accepted⟩ := Formula.addLearned_eq_ok range
      rw [added] at accepted
      cases accepted
    simpa [apply, added, Command.handsOver, stray] using inOrder
  | ok grown =>
    obtain ⟨sameVars, input, learned⟩ := Formula.addLearned_shape added
    have range : clause.InRange count := by
      have last := grown.learnedInRange clause.asLearnt (by simp [learned])
      rw [sameVars, numVars] at last
      exact last
    have clauses : grown.allClauses = given ++ [clause.asLearnt] := by
      rw [← inOrder.clauses]
      simp [Formula.allClauses, input, learned]
    simp only [apply, added, Command.handsOver, range, if_true, Option.toList_some]
    exact ⟨inOrder.coherent, sameVars.trans numVars, clauses,
      Propagator.serves_attach inOrder.serves clause.asLearnt session.trail⟩

/-- Each command, refused or not, keeps a session in order and hands over what it has to. -/
theorem apply (command : Command) :
    (session.apply command).1.InOrder count scheme (given ++ (command.handsOver count).toList) := by
  have nothing : ∀ next : Session, next.InOrder count scheme given →
      next.InOrder count scheme (given ++ (none : Option Clause).toList) := by simp
  cases command with
  | newLevel => exact nothing _ (inOrder.withTrail inOrder.coherent.newLevel)
  | push literal reason =>
    refine nothing _ ?_
    simp only [Session.apply]
    split
    · exact inOrder
    · rename_i pushed
      exact inOrder.withTrail (inOrder.coherent.push pushed)
  | undo level =>
    refine nothing _ ?_
    simp only [Session.apply]
    split
    · exact inOrder
    · rename_i undone
      exact inOrder.withTrail (inOrder.coherent.undo undone)
  | propagate => exact nothing _ inOrder.propagate
  | decide literal => exact nothing _ (inOrder.decide literal)
  | auto =>
    refine nothing _ ?_
    simp only [Session.apply]
    split
    · exact inOrder
    · exact inOrder.decide _
  | backtrack level =>
    refine nothing _ ?_
    simp only [Session.apply]
    split
    · exact inOrder
    · rename_i undone
      exact ⟨inOrder.coherent.undo undone, inOrder.numVars, inOrder.clauses,
        Propagator.serves_backtracked inOrder.serves _⟩
  | learn clause => exact inOrder.learn clause

/-- Commands one after another, refused ones included, keep a session in order. -/
theorem applyAll (commands : List Command) :
    (session.applyAll commands).InOrder count scheme
      (given ++ commands.filterMap (Command.handsOver count)) := by
  induction commands generalizing session given with
  | nil =>
    rw [List.filterMap_nil, List.append_nil]
    exact inOrder
  | cons command rest ih =>
    have handed : (command :: rest).filterMap (Command.handsOver count) =
        (command.handsOver count).toList ++ rest.filterMap (Command.handsOver count) := by
      cases shape : command.handsOver count <;> simp [shape]
    rw [handed, ← List.append_assoc]
    exact ih (inOrder.apply command)

end InOrder

/-- Propagation is sound in every state of every session. Whatever commands came before, in whatever order,
it ends without being refused. It opens no level and leaves the entries that were there; behind them it
appends entries of the current level, each with a clause of the formula as its reason that holds its
literal, while every other literal of that clause is false from an earlier place. The counter grows by
the number of these entries. A clause that is blamed is one of the formula and falsified. -/
theorem propagate_sound_always (formula : Formula) (strategy : Strategy) (scheme : Propagation)
    (commands : List Command) :
    let session := (start formula strategy scheme).applyAll commands
    ∃ next final conflict,
      session.propagator.propagate session.formula session.trail = .ok (next, final, conflict) ∧
      session.apply .propagate = ({ session with
        propagator := next, trail := final, lastConflict := conflict }, .ok (.conflict conflict)) ∧
      final.levelStarts = session.trail.levelStarts ∧
      ∃ added, final.entries.toList = session.trail.entries.toList ++ added ∧
        next.propagations = session.propagator.propagations + added.length ∧
        (∀ entry ∈ added, entry.level = session.trail.level ∧
          ∃ reason ∈ session.formula.allClauses, entry.reason = some reason ∧
            entry.literal ∈ reason.literals ∧
            ∀ literal ∈ reason.literals, literal ≠ entry.literal →
              final.valueOf literal = some false ∧
              ∃ cause, final.entryOf? literal.var = some cause ∧ cause.index < entry.index) ∧
        ∀ clause, conflict = some clause →
          clause ∈ session.formula.allClauses ∧ clause.isFalsified final.value = true := by
  intro session
  have inOrder := (inOrder_start formula strategy scheme).applyAll commands
  obtain ⟨next, result, propagated, _, counted, sound⟩ := inOrder.propagates
  rw [← inOrder.clauses] at sound
  have coherent := sound.forces.coherent inOrder.coherent
  obtain ⟨added, appended, explained⟩ := sound.forces.exists_added inOrder.coherent
  have length : result.forced = added.length := by
    have grown := sound.counted
    have whole := congrArg List.length appended
    simp only [Trail.size, List.length_append, Array.length_toList] at grown whole
    omega
  refine ⟨next, result.trail, result.conflict, propagated, by simp only [apply]; rw [propagated],
    sound.forces.levelStarts_eq, added, appended, by rw [counted, length], fun entry member => ?_,
    fun clause blamed => ?_⟩
  · obtain ⟨level, reason, listed, forced, holds, others⟩ := explained entry member
    refine ⟨level, reason, listed, forced, holds, fun literal inside different => ?_⟩
    obtain ⟨cause, present, denies, earlier⟩ := others literal inside different
    exact ⟨(coherent.valueOf_eq_false_iff literal).2 ⟨cause, present, denies⟩, cause,
      (coherent.indexed ..).2 ⟨present, Entry.var_of_denies denies⟩, earlier⟩
  · obtain ⟨listed, falsified⟩ := sound.blamed clause blamed
    refine ⟨listed, List.all_eq_true.2 fun literal inside => ?_⟩
    have denied := (Clause.status_eq_falsified_iff ..).1 falsified literal inside
    simpa [Literal.isFalse] using denied

/-- No watch is ever lost or duplicated. Whatever commands a session with watching carries out, in whatever
order, the clauses given to the propagator are those of the formula at the start and those learned since.
Each of them with two literals or more has one watcher each time it was given, and each shorter one is kept
apart. A watcher has the literals of its clause. It is named once in the list of its first literal, once in
the list of its second, and in no other list; and no list names a watcher that does not exist. -/
theorem watches_kept (formula : Formula) (strategy : Strategy) (commands : List Command) :
    let session := (start formula strategy .watched).applyAll commands
    let given := formula.allClauses ++ commands.filterMap (Command.handsOver formula.numVars)
    session.formula.allClauses = given ∧
    ∃ lists, session.propagator.engine = .watched lists ∧
      lists.watchers.toList.map Watcher.clause = given.filter (2 ≤ ·.length) ∧
      lists.short = given.filter (·.length < 2) ∧
      (∀ (position : Nat) (watcher : Watcher), lists.watchers[position]? = some watcher →
        watcher.literals.Perm watcher.clause.literals ∧
        (lists.watching watcher.first).count position = 1 ∧
        (lists.watching watcher.second).count position = 1 ∧
        ∀ literal, literal ≠ watcher.first → literal ≠ watcher.second →
          position ∉ lists.watching literal) ∧
      ∀ literal, ∀ position ∈ lists.watching literal, position < lists.watchers.size := by
  intro session given
  have inOrder : session.InOrder formula.numVars .watched given :=
    (inOrder_start formula strategy .watched).applyAll commands
  have serves := inOrder.serves
  generalize session.propagator.engine = engine at serves
  cases serves with
  | @watched lists _ linked =>
    have links := linked.links
    refine ⟨inOrder.clauses, lists, rfl, links.covered, linked.short,
      fun position watcher here => ?_, fun literal position => links.lt_size⟩
    have named : ∀ literal, position ∈ lists.watching literal ↔ watcher.Watches literal := by
      intro literal
      rw [links.listed, here]
      simp
    refine ⟨links.literals watcher (Array.mem_of_getElem? here), ?_, ?_, ?_⟩
    · exact List.count_eq_one_of_mem (links.once _) ((named _).2 (.inl rfl))
    · exact List.count_eq_one_of_mem (links.once _) ((named _).2 (.inr rfl))
    · intro literal first second member
      exact ((named literal).1 member).elim first second

end Session

end Clausal
