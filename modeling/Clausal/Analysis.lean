import Clausal.Total
import Clausal.Trail

/-!
# Conflict analysis

A conflict is answered by a clause that the formula implies, by a level to go back to, and by the
literal of that clause that is forced there. The three variants differ in the clause.

* `plain` denies every decision of the trail.
* `backjump` denies the decisions that the conflict depends on. They are found by walking the
  implication graph backward from the conflict; facts, which are the literals of level 0, are not
  followed.
* `cdcl` resolves the conflict with reasons, latest assignment first, until one literal of the
  current level is left. Facts are dropped. The walk goes from the newest entry to the oldest; should
  reasons name later entries, it goes round once more before it gives up.
-/

namespace Clausal

/-- The search variants, each one reaching further back than the one before. -/
inductive Variant where
  /-- Chronological backtracking. -/
  | plain
  /-- Backjumping without learning. -/
  | backjump
  /-- Backjumping with clause learning. -/
  | cdcl
deriving DecidableEq

namespace Variant

/-- The name of a variant. -/
def name : Variant → String
  | plain => "plain"
  | backjump => "backjump"
  | cdcl => "cdcl"

/-- A variant in a few words. -/
def description : Variant → String
  | plain => "Plain DPLL with chronological backtracking"
  | backjump => "DPLL with non-chronological backjumping"
  | cdcl => "DPLL with backjumping and clause learning"

/-- Every variant, in the order of their listing. -/
def all : List Variant := [plain, backjump, cdcl]

/-- The names of all variants. -/
def names : List String := all.map name

/-- The variant of a name. -/
def ofName (given : String) : Except Fault Variant :=
  match all.find? (·.name == given) with
  | some variant => .ok variant
  | none => .error (.unknownVariant names)

end Variant

/-- The answer to a conflict. -/
inductive Analysis where
  /-- The conflict does not depend on any decision. -/
  | refuted
  /-- Going back to `level`, where `clause` forces `asserting`. `learn` tells whether the clause is
  added to the formula or only serves as the reason of that literal. -/
  | backjump (clause : Clause) (level : Nat) (asserting : Literal) (learn : Bool)
deriving DecidableEq

namespace Analysis

/-- Denies every decision of the trail and goes back by one level. -/
def chronological (trail : Trail) : Except Fault Analysis := do
  if trail.level = 0 then
    return .refuted
  let decisions ← trail.decisions
  match decisions.getLast? with
  | none => return .refuted
  | some last =>
    let clause ← Clause.ofLiterals (decisions.map (·.literal.negate))
    return .backjump clause (trail.level - 1) last.literal.negate false

/-- The length of a reason; a decision has none. -/
def reasonLength (entry : Entry) : Nat :=
  match entry.reason with
  | none => 0
  | some clause => clause.length

/-- The lengths of the reasons of the variables not visited so far, added up. -/
def unvisitedReasons (trail : Trail) (visited : List Int) : Nat :=
  total ((trail.byVar.toList.filter fun pair => !visited.contains pair.1).map
    fun pair => reasonLength pair.2)

/-- A variable visited for the first time takes the length of its reason out of the sum. -/
theorem unvisitedReasons_cons {trail : Trail} {visited : List Int} {var : Int} {entry : Entry}
    (fresh : visited.contains var = false) (held : trail.entryOf? var = some entry) :
    unvisitedReasons trail (var :: visited) + reasonLength entry ≤
      unvisitedReasons trail visited := by
  have member : (var, entry) ∈ trail.byVar.toList :=
    Std.HashMap.mem_toList_iff_getElem?_eq_some.2 held
  unfold unvisitedReasons
  generalize trail.byVar.toList = pairs at member
  have fewer : ∀ part : List (Int × Entry),
      total ((part.filter fun pair => !(var :: visited).contains pair.1).map
          fun pair => reasonLength pair.2) ≤
        total ((part.filter fun pair => !visited.contains pair.1).map
          fun pair => reasonLength pair.2) := by
    intro part
    induction part with
    | nil => simp
    | cons head rest ih =>
      by_cases old : visited.contains head.1 = true
      · simp only [List.contains_cons, old, Bool.or_true, Bool.not_true, Bool.false_eq_true,
          not_false_eq_true, List.filter_cons_of_neg]
        simpa only [List.contains_cons] using ih
      · by_cases same : head.1 = var
        · simp only [List.filter_cons, List.contains_cons, same, beq_self_eq_true, Bool.true_or,
            Bool.not_true, Bool.false_eq_true, if_false]
          simp only [List.contains_cons] at ih
          split
          · simp only [List.map_cons, total_cons]
            omega
          · exact ih
        · simp only [List.filter_cons, List.contains_cons]
          have different : (head.1 == var) = false := by simpa using same
          have unseen : visited.contains head.1 = false := by simpa using old
          simp only [different, unseen, Bool.or_false, Bool.not_false, if_true, List.map_cons,
            total_cons]
          simp only [List.contains_cons] at ih
          omega
  obtain ⟨before, after, split⟩ := List.append_of_mem member
  subst split
  have left := fewer before
  have right := fewer after
  simp only [List.filter_append, List.filter_cons, List.map_append, total_append] at left right ⊢
  simp only [List.contains_cons, beq_self_eq_true, Bool.true_or, Bool.not_true, Bool.false_eq_true,
    if_false, fresh, Bool.not_false, if_true, List.map_cons, total_cons] at left right ⊢
  omega

/-- Visits the variables of the pending literals, the last first, and everything they depend on.
Gives the decisions met, in the order met. -/
def dependencies (trail : Trail) (visited : List Int) (pending : List Literal)
    (met : List Entry) : Except Fault (List Entry) :=
  match pending with
  | [] => .ok met.reverse
  | literal :: rest =>
    if seen : visited.contains literal.var then dependencies trail visited rest met
    else match held : trail.entryOf? literal.var with
      | none => .error (.conflictUnassigned literal.var)
      | some entry =>
        if entry.level = 0 then dependencies trail (literal.var :: visited) rest met
        else match forced : entry.reason with
          | none => dependencies trail (literal.var :: visited) rest (entry :: met)
          | some clause =>
            let causes := clause.literals.filter (·.var != literal.var)
            dependencies trail (literal.var :: visited) (causes.reverse ++ rest) met
termination_by unvisitedReasons trail visited + pending.length
decreasing_by
  all_goals simp only [List.length_cons, List.length_append, List.length_reverse]
  · omega
  all_goals
    have fresh : visited.contains literal.var = false := by simpa using seen
    have bound := unvisitedReasons_cons fresh held
  · omega
  · omega
  · have shorter := List.length_filter_le (fun other => other.var != literal.var) clause.literals
    simp only [reasonLength, forced, Clause.length] at bound
    omega

/-- The decisions that a conflict depends on, sorted by level. -/
def relevantDecisions (conflict : Clause) (trail : Trail) : Except Fault (List Entry) :=
  (dependencies trail [] conflict.literals.reverse []).map fun met =>
    met.mergeSort fun left right => left.level ≤ right.level

/-- Denies the decisions that the conflict depends on and goes back to the last but one of them. -/
def nonChronological (conflict : Clause) (trail : Trail) : Except Fault Analysis := do
  if trail.level = 0 then
    return .refuted
  let decisions ← relevantDecisions conflict trail
  match decisions.reverse with
  | [] => return .refuted
  | last :: earlier =>
    let clause ← Clause.ofLiterals (decisions.map (·.literal.negate))
    let level := (earlier.head?.map Entry.level).getD 0
    return .backjump clause level last.literal.negate false

/-- What resolution has gathered so far. -/
structure Resolvent where
  /-- The variables met. -/
  seen : List Int
  /-- The literals of levels below the current one, facts excepted, in the order met. -/
  lower : List Literal
  /-- How many literals of the current level are still to be resolved. -/
  pending : Nat

namespace Resolvent

/-- Nothing has been gathered. -/
def start : Resolvent := ⟨[], [], 0⟩

/-- Takes up one literal at the given current level. -/
def absorb (trail : Trail) (level : Nat) (gathered : Resolvent) (literal : Literal) :
    Except Fault Resolvent :=
  if gathered.seen.contains literal.var then .ok gathered
  else match trail.levelOf literal.var with
    | .error fault => .error fault
    | .ok assignedAt =>
      let noted := { gathered with seen := literal.var :: gathered.seen }
      .ok (if assignedAt = level then { noted with pending := noted.pending + 1 }
        else if 0 < assignedAt then { noted with lower := noted.lower ++ [literal] }
        else noted)

/-- Takes up the literals of a clause in order. -/
def absorbAll (trail : Trail) (level : Nat) (gathered : Resolvent) (clause : Clause) :
    Except Fault Resolvent :=
  clause.literals.foldlM (absorb trail level) gathered

end Resolvent

/-- Goes along the entries, latest first, and resolves with their reasons until one literal of the
current level is left. Gives the entry of that literal and what was gathered. -/
def resolve (trail : Trail) (level : Nat) :
    List Entry → Resolvent → Except Fault (Entry × Resolvent)
  | [], _ => .error .noSuchEntry
  | entry :: older, gathered =>
    if gathered.seen.contains entry.var then
      if gathered.pending ≤ 1 then .ok (entry, gathered)
      else match entry.reason with
        | none => .error .decisionResolved
        | some reason =>
          match Resolvent.absorbAll trail level
              { gathered with pending := gathered.pending - 1 } reason with
          | .error fault => .error fault
          | .ok absorbed => resolve trail level older absorbed
    else resolve trail level older gathered

/-- The highest level among the variables of the literals; 0 if there is none. -/
def highestLevel (trail : Trail) (literals : List Literal) : Except Fault Nat :=
  literals.foldlM (fun highest literal =>
    (trail.levelOf literal.var).map fun level => max highest level) 0

/-- Resolves the conflict up to the first literal of the current level through which every
implication passes, and learns the result. -/
def firstUip (conflict : Clause) (trail : Trail) : Except Fault Analysis := do
  let level := trail.level
  if level = 0 then
    return .refuted
  let gathered ← Resolvent.absorbAll trail level .start conflict
  if gathered.pending = 0 then
    throw (.conflictBelowLevel conflict.literals level)
  let latest := trail.entries.toList.reverse
  let (entry, resolved) ← resolve trail level (latest ++ latest) gathered
  let asserting := entry.literal.negate
  let clause ← Clause.ofLiterals (asserting :: resolved.lower)
  let backjumpLevel ← highestLevel trail resolved.lower
  return .backjump clause backjumpLevel asserting true

/-- The answer of a variant to a conflict. -/
def ofConflict (variant : Variant) (conflict : Clause) (trail : Trail) : Except Fault Analysis :=
  match variant with
  | .plain => chronological trail
  | .backjump => nonChronological conflict trail
  | .cdcl => firstUip conflict trail

end Analysis

end Clausal
