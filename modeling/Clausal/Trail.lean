import Clausal.Assignment
import Clausal.Formula
import Std.Data.HashMap

/-!
# Trails

A trail records assigned literals in the order of their assignment, each with its decision level and
the clause that forced it, if any. An index from variables to entries answers every question about a
variable. Undoing goes back to the end of a level and gives the removed entries, latest first.

Pushing a literal that already holds changes nothing; pushing the opposite of a literal that holds is
refused and changes nothing either.

The values of variables are read off the index. A table of values of its own, entered and struck out variable
by variable beside the index, would say the same: that is `Coherent.retable_assignment` of the trail's
histories.
-/

namespace Clausal

/-- One assigned literal. -/
structure Entry where
  /-- The literal made true. -/
  literal : Literal
  /-- The decision level of the assignment. -/
  level : Nat
  /-- The clause that forced the literal; a decision has none. -/
  reason : Option Clause
  /-- The position on the trail. -/
  index : Nat
deriving DecidableEq

namespace Entry

/-- The variable of the entry's literal. -/
def var (entry : Entry) : Int :=
  entry.literal.var

/-- The truth value the entry gives its variable. -/
def truth (entry : Entry) : Bool :=
  !entry.literal.negated

/-- The entry was not forced by a clause. -/
def isDecision (entry : Entry) : Bool :=
  entry.reason.isNone

/-- The entry on its own, with its reason. -/
def text (entry : Entry) : String :=
  let reason := match entry.reason with
    | none => "decision"
    | some clause => clause.text
  s!"TrailEntry({entry.literal.text}@{entry.level}, {reason})"

/-- The entry as part of a trail: a decision is marked by a final letter. -/
def brief (entry : Entry) : String :=
  s!"{entry.literal.text}@{entry.level}" ++ (if entry.isDecision then "d" else "")

end Entry

/-- Assigned literals in order, indexed by variable and divided into decision levels. -/
structure Trail where
  /-- The entries, oldest first. -/
  entries : Array Entry
  /-- The entry of each assigned variable. -/
  byVar : Std.HashMap Int Entry
  /-- For each level above 0, the number of entries before it was opened. -/
  levelStarts : Array Nat

namespace Trail

/-- No literal is assigned and no level is open. -/
def empty : Trail := ⟨#[], ∅, #[]⟩

/-- The current decision level. -/
def level (trail : Trail) : Nat :=
  trail.levelStarts.size

/-- The number of entries. -/
def size (trail : Trail) : Nat :=
  trail.entries.size

/-- The entry of a variable, if it is assigned. -/
def entryOf? (trail : Trail) (var : Int) : Option Entry :=
  trail.byVar[var]?

/-- The truth value of a variable, if it is assigned. -/
def value (trail : Trail) : Valuation :=
  fun var => (trail.entryOf? var).map Entry.truth

/-- The variable has a value. -/
def isAssigned (trail : Trail) (var : Int) : Bool :=
  (trail.entryOf? var).isSome

/-- The truth value of a literal, if its variable is assigned. -/
def valueOf (trail : Trail) (literal : Literal) : Option Bool :=
  literal.value trail.value

/-- The decision level of an assigned variable. -/
def levelOf (trail : Trail) (var : Int) : Except Fault Nat :=
  match trail.entryOf? var with
  | none => .error (.unassignedVariable var)
  | some entry => .ok entry.level

/-- The reason of an assigned variable; a decision has none. -/
def reasonOf (trail : Trail) (var : Int) : Except Fault (Option Clause) :=
  match trail.entryOf? var with
  | none => .error (.unassignedVariable var)
  | some entry => .ok entry.reason

/-- The entry at a position. -/
def entryAt (trail : Trail) (position : Nat) : Except Fault Entry :=
  match trail.entries[position]? with
  | none => .error .noSuchEntry
  | some entry => .ok entry

/-- Opens a decision level. -/
def newLevel (trail : Trail) : Trail :=
  { trail with levelStarts := trail.levelStarts.push trail.entries.size }

/-- Appends an entry at the current level. The caller answers for the variable being free. -/
def extend (trail : Trail) (literal : Literal) (reason : Option Clause) : Trail :=
  let entry : Entry := ⟨literal, trail.level, reason, trail.size⟩
  { trail with
    entries := trail.entries.push entry
    byVar := trail.byVar.insert literal.var entry }

/-- Assigns a literal at the current level. -/
def push (trail : Trail) (literal : Literal) (reason : Option Clause) : Except Fault Trail :=
  match trail.entryOf? literal.var with
  | none => .ok (trail.extend literal reason)
  | some entry =>
    if entry.literal = literal then .ok trail
    else .error (.contradictsTrail literal entry.literal)

/-- Takes the variables of entries out of an index, one after another; one that is not there is refused. -/
def strike : List Entry → Std.HashMap Int Entry → Except Fault (Std.HashMap Int Entry)
  | [], index => .ok index
  | entry :: rest, index =>
    if index.contains entry.var then strike rest (index.erase entry.var)
    else .error (.unassignedVariable entry.var)

/-- Goes back to the end of a level and gives the removed entries, latest first. A negative level is
refused, and one that is not below the current one leaves the trail as it is. -/
def undo (trail : Trail) (level : Int) : Except Fault (Trail × List Entry) :=
  if level < 0 then .error (.negativeLevel level)
  else match trail.levelStarts[level.toNat]? with
    | none => .ok (trail, [])
    | some start =>
      let removed := (trail.entries.toList.drop start).reverse
      (strike removed trail.byVar).map fun index =>
        ({ entries := trail.entries.take start
           byVar := index
           levelStarts := trail.levelStarts.take level.toNat }, removed)

/-- The trail at the end of a level, and the entries above it, latest first: what going back comes to where
the index holds every entry. -/
def undoTo (trail : Trail) (level : Nat) : Trail × List Entry :=
  match trail.levelStarts[level]? with
  | none => (trail, [])
  | some start =>
    let removed := (trail.entries.toList.drop start).reverse
    ({ entries := trail.entries.take start
       byVar := removed.foldl (fun index entry => index.erase entry.var) trail.byVar
       levelStarts := trail.levelStarts.take level }, removed)

/-- The entry at the start of every level above 0. A level opened at the end of the trail with
nothing pushed since has no such entry. -/
def decisions (trail : Trail) : Except Fault (List Entry) :=
  trail.levelStarts.toList.mapM trail.entryAt

/-- Each assigned variable with its value, in trail order. -/
def assignment (trail : Trail) : Assignment :=
  ⟨trail.entries.toList.map fun entry => (entry.var, entry.truth)⟩

/-- A total assignment of the variables 1 to `count`; those without a value become false. -/
def model (trail : Trail) (count : Nat) : Assignment :=
  ⟨(List.range' 1 count).map fun (var : Nat) =>
    ((var : Int), (trail.value var).getD false)⟩

/-- The whole trail. -/
def display (trail : Trail) : String :=
  "Trail(" ++ ", ".intercalate (trail.entries.toList.map Entry.brief) ++ ")"

/-- A variable is without value exactly when it is not assigned. -/
theorem isAssigned_eq_false_iff (trail : Trail) (var : Int) :
    trail.isAssigned var = false ↔ trail.value var = none := by
  simp [isAssigned, value]

/-- After an extension exactly one more variable is known to be assigned. -/
theorem isAssigned_extend (trail : Trail) (literal : Literal) (reason : Option Clause)
    (var : Int) :
    (trail.extend literal reason).isAssigned var = (trail.isAssigned var || var == literal.var) := by
  simp only [isAssigned, entryOf?, extend, Std.HashMap.getElem?_insert]
  by_cases same : literal.var = var
  · simp [same]
  · have other : var ≠ literal.var := fun equal => same equal.symm
    simp [same, other]

/-- Pushing succeeds only by extension or by leaving the trail alone. -/
theorem push_eq_ok {trail extended : Trail} {literal : Literal} {reason : Option Clause}
    (pushed : trail.push literal reason = .ok extended) :
    (trail.isAssigned literal.var = false ∧ extended = trail.extend literal reason) ∨
      (trail.isAssigned literal.var = true ∧ extended = trail) := by
  unfold push at pushed
  split at pushed
  · rename_i free
    left
    exact ⟨by simp [isAssigned, free], by cases pushed; rfl⟩
  · rename_i entry held
    split at pushed
    · right
      exact ⟨by simp [isAssigned, held], by cases pushed; rfl⟩
    · simp at pushed

/-- Pushing never makes a variable lose its value. -/
theorem isAssigned_of_push {trail extended : Trail} {literal : Literal} {reason : Option Clause}
    (pushed : trail.push literal reason = .ok extended) {var : Int}
    (assigned : trail.isAssigned var = true) : extended.isAssigned var = true := by
  rcases push_eq_ok pushed with ⟨_, shape⟩ | ⟨_, shape⟩
  · rw [shape, isAssigned_extend, assigned, Bool.true_or]
  · rw [shape, assigned]

/-- The variable of a pushed literal has a value afterwards. -/
theorem isAssigned_push_self {trail extended : Trail} {literal : Literal} {reason : Option Clause}
    (pushed : trail.push literal reason = .ok extended) :
    extended.isAssigned literal.var = true := by
  rcases push_eq_ok pushed with ⟨_, shape⟩ | ⟨held, shape⟩
  · simp [shape, isAssigned_extend]
  · rw [shape, held]

end Trail

end Clausal
