import Clausal.Solver

/-!
# Working on a trail by hand

A session puts a formula, a trail, a propagator and a decider under one roof and lets them be driven
command by command, in any order. Nothing here keeps the discipline that the solver keeps: levels may
be opened without a decision, literals pushed with any reason, assignments undone without telling the
propagator, and clauses learned that nothing implies.

A command that is refused leaves the session as far as it had come.
-/

namespace Clausal

/-- A formula, a trail and the parts that work on them. -/
structure Session where
  /-- The formula with the clauses learned so far. -/
  formula : Formula
  /-- The assigned literals. -/
  trail : Trail
  /-- The propagation scheme at work. -/
  propagator : Propagator
  /-- The choice of decisions. -/
  decider : Decider
  /-- The falsified clause that the latest propagation ended with, if any. -/
  lastConflict : Option Clause

namespace Session

/-- A command that may change a session. -/
inductive Command where
  /-- Opens a decision level. -/
  | newLevel
  /-- Assigns a literal with a reason or without. -/
  | push (literal : Literal) (reason : Option Clause)
  /-- Goes back to a level without telling the propagator. -/
  | undo (level : Int)
  /-- Forces literals. -/
  | propagate
  /-- Opens a level and assigns a literal without reason at it. -/
  | decide (literal : Literal)
  /-- Decides the literal that the decider picks, if it picks one. -/
  | auto
  /-- Goes back to a level and tells the propagator. -/
  | backtrack (level : Int)
  /-- Adds a clause to the learned ones. -/
  | learn (clause : Clause)

/-- What a command answers. -/
inductive Reply where
  /-- The command has nothing to say. -/
  | done
  /-- The entry that now holds the pushed literal. -/
  | entry (entry : Entry)
  /-- The removed entries, latest first. -/
  | removed (entries : List Entry)
  /-- The falsified clause, if there is one. -/
  | conflict (clause : Option Clause)
  /-- The decided literal, if there is one. -/
  | decided (literal : Option Literal)
  /-- The clause as it was learned. -/
  | learned (clause : Clause)

/-- A session over a formula with nothing assigned. -/
def start (formula : Formula) (strategy : Strategy) (propagation : Propagation) : Session where
  formula := formula
  trail := .empty
  propagator := .start propagation formula
  decider := .start strategy formula
  lastConflict := none

/-- The session of signed clauses and two names. Formula, propagation and strategy are judged in that
order. -/
def ofDimacs (signed : List (List Int)) (count : Int) (propagation strategy : String) :
    Except Fault Session := do
  let formula ← Formula.ofDimacs signed count
  let propagation ← Propagation.ofName propagation
  let strategy ← Strategy.ofName strategy
  return start formula strategy propagation

/-- Opens a level and assigns a literal at it; a refused literal leaves the level open. -/
def decide (session : Session) (literal : Literal) : Session × Except Fault Reply :=
  let opened := { session with trail := session.trail.newLevel }
  match opened.trail.push literal none with
  | .error fault => (opened, .error fault)
  | .ok trail => ({ opened with trail := trail }, .ok (.decided (some literal)))

/-- Carries out a command. -/
def apply (session : Session) : Command → Session × Except Fault Reply
  | .newLevel => ({ session with trail := session.trail.newLevel }, .ok .done)
  | .push literal reason =>
    match session.trail.push literal reason with
    | .error fault => (session, .error fault)
    | .ok trail =>
      let reply := match trail.entryOf? literal.var with
        | none => .done
        | some entry => .entry entry
      ({ session with trail := trail }, .ok reply)
  | .undo level =>
    match session.trail.undo level with
    | .error fault => (session, .error fault)
    | .ok (trail, removed) => ({ session with trail := trail }, .ok (.removed removed))
  | .propagate =>
    match session.propagator.propagate session.formula session.trail with
    | .error fault => (session, .error fault)
    | .ok (propagator, trail, conflict) =>
      ({ session with propagator := propagator, trail := trail, lastConflict := conflict },
        .ok (.conflict conflict))
  | .decide literal => session.decide literal
  | .auto =>
    match session.decider.pick session.trail with
    | none => (session, .ok (.decided none))
    | some literal => session.decide literal
  | .backtrack level =>
    match session.trail.undo level with
    | .error fault => (session, .error fault)
    | .ok (trail, removed) =>
      ({ session with trail := trail, propagator := session.propagator.backtracked trail },
        .ok (.removed removed))
  | .learn clause =>
    match session.formula.addLearned clause with
    | .error fault => (session, .error fault)
    | .ok formula =>
      ({ session with
          formula := formula
          propagator := session.propagator.attach clause.asLearnt session.trail },
        .ok (.learned clause.asLearnt))

/-- Carries out commands one after another, refused ones included. -/
def applyAll (session : Session) (commands : List Command) : Session :=
  commands.foldl (fun current command => (current.apply command).1) session

/-- The clause to be analysed: the given one, else the latest conflict. -/
def conflictOr? (session : Session) (given : Option Clause) : Option Clause :=
  given.or session.lastConflict

/-- Picks literals and assigns them until none is left. Each literal picked lengthens the trail. -/
def pickAll (decider : Decider) (trail : Trail) : Nat → Except Fault (List Literal)
  | 0 => .ok []
  | remaining + 1 =>
    match decider.pick trail with
    | none => .ok []
    | some literal =>
      match trail.push literal none with
      | .error fault => .error fault
      | .ok extended => (pickAll decider extended remaining).map (literal :: ·)

/-- The literals that a decider picks one after another once the given ones are assigned. -/
def picks (strategy : Strategy) (formula : Formula) (assigned : List Literal) :
    Except Fault (List Literal) := do
  let trail ← assigned.foldlM (fun trail literal => trail.push literal none) Trail.empty
  pickAll (.start strategy formula) trail formula.numVars

end Session

end Clausal
