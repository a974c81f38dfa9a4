import Clausal.Propagation.Watched

/-!
# Propagation

The two propagation schemes behind one interface. A propagator is given the formula on every call,
so that clauses learned since are looked at; the watching scheme is told of each of them when it is
learned and of every undoing. The counter tells how many literals were forced since the start.
-/

namespace Clausal

/-- The schemes by which forced literals are found. -/
inductive Propagation where
  /-- Rescans every clause. -/
  | naive
  /-- Watches two literals of each clause. -/
  | watched
deriving DecidableEq

namespace Propagation

/-- The name of a scheme. -/
def name : Propagation → String
  | naive => "naive"
  | watched => "watched"

/-- Every scheme, in the order of their listing. -/
def all : List Propagation := [naive, watched]

/-- The scheme of a name. -/
def ofName (given : String) : Except Fault Propagation :=
  match all.find? (·.name == given) with
  | some scheme => .ok scheme
  | none => .error (.unknownPropagation (all.map name))

end Propagation

/-- What a scheme keeps between calls. -/
inductive Engine where
  /-- Rescanning keeps nothing. -/
  | naive
  /-- Watching keeps the watch lists and the queue. -/
  | watched (lists : WatchLists)

/-- A propagation scheme at work. -/
structure Propagator where
  /-- What the scheme keeps. -/
  engine : Engine
  /-- How many literals were forced so far. -/
  propagations : Nat

namespace Propagator

/-- A scheme at the start of its work on a formula. -/
def start (scheme : Propagation) (formula : Formula) : Propagator :=
  match scheme with
  | .naive => ⟨.naive, 0⟩
  | .watched => ⟨.watched (.ofClauses formula.allClauses), 0⟩

/-- Forces literals until no clause is unit or some clause is falsified. -/
def propagate (propagator : Propagator) (formula : Formula) (trail : Trail) :
    Except Fault (Propagator × Trail × Option Clause) :=
  match propagator.engine with
  | .naive => (Naive.propagate formula.allClauses trail).map fun result =>
      (⟨.naive, propagator.propagations + result.forced⟩, result.trail, result.conflict)
  | .watched lists => (lists.propagate trail).map fun result =>
      (⟨.watched result.lists, propagator.propagations + result.propagated.forced⟩,
        result.propagated.trail, result.propagated.conflict)

/-- Takes notice of a clause learned under the trail. -/
def attach (propagator : Propagator) (clause : Clause) (trail : Trail) : Propagator :=
  match propagator.engine with
  | .naive => propagator
  | .watched lists => { propagator with engine := .watched (lists.attach clause trail) }

/-- Takes notice of an undoing that led to the trail. -/
def backtracked (propagator : Propagator) (trail : Trail) : Propagator :=
  match propagator.engine with
  | .naive => propagator
  | .watched lists => { propagator with engine := .watched (lists.backtracked trail) }

end Propagator

end Clausal
