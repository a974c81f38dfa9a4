import Mathlib
import Clausal.Analysis
import Clausal.Proofs.Coherence

/-!
# What a conflict depends on

The variables that a conflict depends on are those of its literals and, for each of them that was
forced above level 0, those of its reason. The walk that looks for decisions visits exactly these
variables: it is refused when one of them has no value, and otherwise gives exactly the decisions
among them, each once, in the order of their levels.

The reasons need not explain their entries for this; the walk ends on any coherent trail.
-/

namespace Clausal

namespace Trail

/-- Walking back from the literals through reasons comes to the variable. Facts are not followed. -/
inductive Reaches (trail : Trail) (literals : List Literal) : Int → Prop
  /-- A literal of the list names the variable. -/
  | named {literal : Literal} (member : literal ∈ literals) : Reaches trail literals literal.var
  /-- The reason of a reached variable names the variable. -/
  | cause {var : Int} {entry : Entry} {clause : Clause} {literal : Literal}
      (reached : Reaches trail literals var) (held : trail.entryOf? var = some entry)
      (above : entry.level ≠ 0) (forced : entry.reason = some clause)
      (member : literal ∈ clause.literals) : Reaches trail literals literal.var

/-- The variables include those of the literals and, with each variable that was forced above level 0,
those that its reason names. -/
structure ClosedFrom (trail : Trail) (literals : List Literal) (vars : Set Int) : Prop where
  /-- The variables of the literals are among them. -/
  named : ∀ literal ∈ literals, literal.var ∈ vars
  /-- What forces one of them above level 0 names only variables that are among them. -/
  causes : ∀ var ∈ vars, ∀ entry, trail.entryOf? var = some entry → 0 < entry.level →
    ∀ clause, entry.reason = some clause → ∀ literal ∈ clause.literals, literal.var ∈ vars

/-- The reached variables are the least closed set. -/
theorem isLeast_reaches (trail : Trail) (literals : List Literal) :
    IsLeast {closed | trail.ClosedFrom literals closed} {var | trail.Reaches literals var} := by
  refine ⟨⟨fun literal member => .named member, ?_⟩, fun closed holds var reached => ?_⟩
  · intro var reached entry held above clause forced literal member
    exact .cause reached held above.ne' forced member
  · induction reached with
    | named member => exact holds.named _ member
    | cause _ held above forced member ih =>
      exact holds.causes _ ih _ held (Nat.pos_of_ne_zero above) _ forced _ member

/-- The entry is a decision above level 0 that the literals depend on. -/
def Relevant (trail : Trail) (literals : List Literal) (entry : Entry) : Prop :=
  entry ∈ trail.entries ∧ trail.Reaches literals entry.var ∧ entry.level ≠ 0 ∧ entry.reason = none

/-- The decisions that the literals depend on are found by their variables. -/
theorem Coherent.relevant_iff {trail : Trail} (coherent : trail.Coherent) (literals : List Literal)
    (entry : Entry) :
    trail.Relevant literals entry ↔ ∃ var, trail.Reaches literals var ∧
      trail.entryOf? var = some entry ∧ 0 < entry.level ∧ entry.isDecision = true := by
  rw [Relevant, Entry.isDecision, Option.isNone_iff_eq_none, ← Nat.pos_iff_ne_zero]
  constructor
  · rintro ⟨present, reached, above, decision⟩
    exact ⟨entry.var, reached, coherent.entryOf?_var present, above, decision⟩
  · rintro ⟨var, reached, held, above, decision⟩
    obtain ⟨present, rfl⟩ := (coherent.indexed var entry).1 held
    exact ⟨present, reached, above, decision⟩

end Trail

namespace Analysis

/-- What a walk from the literals may give. -/
inductive Traced (trail : Trail) (literals : List Literal) : Except Fault (List Entry) → Prop
  /-- Every reached variable is assigned, and the relevant decisions are found, each once. -/
  | found {decisions : List Entry}
      (assigned : ∀ var, trail.Reaches literals var → trail.isAssigned var = true)
      (relevant : ∀ entry, entry ∈ decisions ↔ trail.Relevant literals entry)
      (distinct : decisions.Nodup) : Traced trail literals (.ok decisions)
  /-- A reached variable has no value. -/
  | unassigned {var : Int} (reached : trail.Reaches literals var)
      (free : trail.isAssigned var = false) :
      Traced trail literals (.error (.conflictUnassigned var))

/-- The state of a walk from the literals: the variables visited, the literals to be visited and the
decisions met. -/
structure Walked (trail : Trail) (literals : List Literal) (visited : List Int)
    (pending : List Literal) (met : List Entry) : Prop where
  /-- Only reached variables are visited. -/
  reached : ∀ var ∈ visited, trail.Reaches literals var
  /-- Only reached variables are to be visited. -/
  waiting : ∀ literal ∈ pending, trail.Reaches literals literal.var
  /-- The walk starts from the literals. -/
  started : ∀ literal ∈ literals, literal.var ∈ visited ∨ literal ∈ pending
  /-- Visited variables are assigned. -/
  assigned : ∀ var ∈ visited, trail.isAssigned var = true
  /-- What a visited variable depends on is visited or is to be visited. -/
  followed : ∀ var ∈ visited, ∀ entry, trail.entryOf? var = some entry → entry.level ≠ 0 →
    ∀ clause, entry.reason = some clause → ∀ literal ∈ clause.literals,
      literal.var ∈ visited ∨ literal ∈ pending
  /-- The decisions met are those of the visited variables. -/
  decided : ∀ entry, entry ∈ met ↔
    entry ∈ trail.entries ∧ entry.var ∈ visited ∧ entry.level ≠ 0 ∧ entry.reason = none
  /-- No decision is met twice. -/
  distinct : met.Nodup

namespace Walked

variable {trail : Trail} {literals rest : List Literal} {visited : List Int} {literal : Literal}
  {met : List Entry}

/-- A walk begins with the literals themselves. -/
theorem begin (trail : Trail) (literals pending : List Literal)
    (same : ∀ literal, literal ∈ pending ↔ literal ∈ literals) :
    Walked trail literals [] pending [] := by
  refine ⟨by simp, fun literal member => ?_, fun literal member => ?_, by simp, by simp, by simp,
    .nil⟩
  · exact .named ((same literal).1 member)
  · exact .inr ((same literal).2 member)

/-- A literal whose variable has been visited is passed over. -/
theorem pass (walked : Walked trail literals visited (literal :: rest) met)
    (seen : literal.var ∈ visited) : Walked trail literals visited rest met := by
  have shift : ∀ other, other.var ∈ visited ∨ other ∈ literal :: rest →
      other.var ∈ visited ∨ other ∈ rest := by
    rintro other (old | waiting)
    · exact .inl old
    · rcases List.mem_cons.1 waiting with same | later
      · rw [same]
        exact .inl seen
      · exact .inr later
  refine ⟨walked.reached, fun other member => ?_, fun other member => ?_, walked.assigned, ?_,
    walked.decided, walked.distinct⟩
  · exact walked.waiting other (List.mem_cons_of_mem _ member)
  · exact shift other (walked.started other member)
  · intro var member entry held above clause forced other inside
    exact shift other (walked.followed var member entry held above clause forced other inside)

/-- A variable is visited: what it depends on is put before the rest, and it is met if it is a
decision. -/
theorem visit {entry : Entry} {next : List Entry}
    (walked : Walked trail literals visited (literal :: rest) met) (causes : List Literal)
    (held : trail.entryOf? literal.var = some entry)
    (reached : ∀ other ∈ causes, trail.Reaches literals other.var)
    (followed : entry.level ≠ 0 → ∀ clause, entry.reason = some clause →
      ∀ other ∈ clause.literals, other.var = literal.var ∨ other ∈ causes)
    (decided : ∀ other, other ∈ next ↔
      other ∈ trail.entries ∧ (other.var = literal.var ∨ other.var ∈ visited) ∧
        other.level ≠ 0 ∧ other.reason = none)
    (distinct : next.Nodup) :
    Walked trail literals (literal.var :: visited) (causes ++ rest) next := by
  have shift : ∀ other, other.var ∈ visited ∨ other ∈ literal :: rest →
      other.var ∈ literal.var :: visited ∨ other ∈ causes ++ rest := by
    rintro other (old | waiting)
    · exact .inl (List.mem_cons_of_mem _ old)
    · rcases List.mem_cons.1 waiting with same | later
      · rw [same]
        exact .inl List.mem_cons_self
      · exact .inr (List.mem_append_right _ later)
  refine ⟨fun var member => ?_, fun other member => ?_, fun other member => ?_,
    fun var member => ?_, fun var member => ?_, fun other => ?_, distinct⟩
  · rcases List.mem_cons.1 member with same | old
    · rw [same]
      exact walked.waiting literal List.mem_cons_self
    · exact walked.reached var old
  · rcases List.mem_append.1 member with new | later
    · exact reached other new
    · exact walked.waiting other (List.mem_cons_of_mem _ later)
  · exact shift other (walked.started other member)
  · rcases List.mem_cons.1 member with same | old
    · simp [same, Trail.isAssigned, held]
    · exact walked.assigned var old
  · intro found here above clause forced other inside
    rcases List.mem_cons.1 member with same | old
    · rw [same, held] at here
      obtain rfl := Option.some.inj here
      rcases followed above clause forced other inside with itself | new
      · rw [itself]
        exact .inl List.mem_cons_self
      · exact .inr (List.mem_append_left _ new)
    · exact shift other (walked.followed var old found here above clause forced other inside)
  · rw [decided, List.mem_cons]

/-- Visiting a variable that is a fact or was forced meets no decision. -/
theorem mem_met_iff (walked : Walked trail literals visited (literal :: rest) met)
    (coherent : trail.Coherent) {entry : Entry} (held : trail.entryOf? literal.var = some entry)
    (forced : entry.level ≠ 0 → entry.reason ≠ none) (other : Entry) :
    other ∈ met ↔ other ∈ trail.entries ∧ (other.var = literal.var ∨ other.var ∈ visited) ∧
      other.level ≠ 0 ∧ other.reason = none := by
  rw [walked.decided]
  constructor
  · rintro ⟨present, old, kept⟩
    exact ⟨present, .inr old, kept⟩
  · rintro ⟨present, same | old, above, decision⟩
    · have equal := (coherent.indexed _ _).2 ⟨present, same⟩
      rw [held] at equal
      obtain rfl := Option.some.inj equal
      exact absurd decision (forced above)
    · exact ⟨present, old, above, decision⟩

/-- A finished walk has visited exactly what the literals reach. -/
theorem mem_visited_iff (walked : Walked trail literals visited [] met) (var : Int) :
    var ∈ visited ↔ trail.Reaches literals var := by
  refine ⟨walked.reached var, fun reached => ?_⟩
  induction reached with
  | named member => simpa using walked.started _ member
  | cause _ held above forced member ih =>
    simpa using walked.followed _ ih _ held above _ forced _ member

/-- A finished walk has met exactly the relevant decisions. -/
theorem traced (walked : Walked trail literals visited [] met) :
    Traced trail literals (.ok met.reverse) := by
  refine .found (fun var reached => ?_) (fun entry => ?_) (List.nodup_reverse.2 walked.distinct)
  · exact walked.assigned var ((walked.mem_visited_iff var).2 reached)
  · rw [List.mem_reverse, walked.decided, walked.mem_visited_iff]
    rfl

end Walked

/-- A walk is refused by a reached variable without a value, or else finds the relevant decisions. -/
theorem dependencies_traced {trail : Trail} (coherent : trail.Coherent) {literals : List Literal}
    {visited : List Int} {pending : List Literal} {met : List Entry}
    (walked : Walked trail literals visited pending met) :
    Traced trail literals (dependencies trail visited pending met) := by
  fun_induction dependencies trail visited pending met with
  | case1 visited met => exact walked.traced
  | case2 visited met literal rest seen ih =>
    exact ih (walked.pass (by simpa using seen))
  | case3 visited met literal rest fresh held =>
    exact .unassigned (walked.waiting literal List.mem_cons_self) (by simp [Trail.isAssigned, held])
  | case4 visited met literal rest fresh entry held fact ih =>
    exact ih (walked.visit [] held (by simp) (fun above => absurd fact above)
      (walked.mem_met_iff coherent held fun above => absurd fact above) walked.distinct)
  | case5 visited met literal rest fresh entry held above decision ih =>
    obtain ⟨member, named⟩ := (coherent.indexed _ _).1 held
    have unmet : entry ∉ met := by
      rw [walked.decided, named]
      simp only [List.contains_eq_mem, decide_eq_true_eq] at fresh
      tauto
    refine ih (walked.visit [] held (by simp) (by simp [decision]) ?_
      (List.nodup_cons.2 ⟨unmet, walked.distinct⟩))
    intro other
    rw [List.mem_cons, walked.decided]
    constructor
    · rintro (same | old)
      · rw [same]
        exact ⟨member, .inl named, above, decision⟩
      · tauto
    · rintro ⟨present, same | old, rest⟩
      · have equal := (coherent.indexed _ _).2 ⟨present, same⟩
        rw [held] at equal
        exact .inl (Option.some.inj equal).symm
      · exact .inr ⟨present, old, rest⟩
  | case6 visited met literal rest fresh entry held above clause forced causes ih =>
    refine ih (walked.visit _ held (fun other member => ?_) (fun _ reason same other inside => ?_)
      (walked.mem_met_iff coherent held fun _ => by simp [forced]) walked.distinct)
    · have inside : other ∈ clause.literals := by
        simp only [causes, List.mem_reverse, List.mem_filter] at member
        exact member.1
      exact .cause (walked.waiting literal List.mem_cons_self) held above forced inside
    · rw [forced] at same
      obtain rfl := Option.some.inj same
      by_cases itself : other.var = literal.var
      · exact .inl itself
      · refine .inr ?_
        simp only [causes, List.mem_reverse, List.mem_filter]
        exact ⟨inside, by simpa using itself⟩

/-- When everything that a conflict reaches is assigned, its relevant decisions are found, each once,
sorted by level. -/
theorem relevantDecisions_eq_ok {trail : Trail} (coherent : trail.Coherent) {conflict : Clause}
    (assigned : ∀ var, trail.Reaches conflict.literals var → trail.isAssigned var = true) :
    ∃ decisions, relevantDecisions conflict trail = .ok decisions ∧
      (∀ entry, entry ∈ decisions ↔ trail.Relevant conflict.literals entry) ∧
      decisions.Nodup ∧ decisions.Pairwise fun left right => left.level ≤ right.level := by
  have start := Walked.begin trail conflict.literals conflict.literals.reverse (by simp)
  have traced := dependencies_traced coherent start
  unfold relevantDecisions
  generalize dependencies trail [] conflict.literals.reverse [] = walk at traced
  cases traced with
  | unassigned reached free =>
    rw [assigned _ reached] at free
    simp at free
  | @found decisions _ relevant distinct =>
    refine ⟨_, rfl, fun entry => ?_, ?_, ?_⟩
    · rw [List.mem_mergeSort, relevant]
    · exact (List.mergeSort_perm decisions _).nodup_iff.2 distinct
    · have transitive : ∀ first second third : Entry, decide (first.level ≤ second.level) →
          decide (second.level ≤ third.level) → decide (first.level ≤ third.level) := by
        simp only [decide_eq_true_eq]
        omega
      have total : ∀ first second : Entry,
          decide (first.level ≤ second.level) || decide (second.level ≤ first.level) := by
        simp only [Bool.or_eq_true, decide_eq_true_eq]
        omega
      simpa using List.pairwise_mergeSort transitive total decisions

/-- When something that a conflict reaches has no value, the walk is refused by such a variable. -/
theorem relevantDecisions_eq_error {trail : Trail} (coherent : trail.Coherent) {conflict : Clause}
    {var : Int} (reached : trail.Reaches conflict.literals var)
    (free : trail.isAssigned var = false) :
    ∃ blamed, relevantDecisions conflict trail = .error (.conflictUnassigned blamed) ∧
      trail.Reaches conflict.literals blamed ∧ trail.isAssigned blamed = false := by
  have start := Walked.begin trail conflict.literals conflict.literals.reverse (by simp)
  have traced := dependencies_traced coherent start
  unfold relevantDecisions
  generalize dependencies trail [] conflict.literals.reverse [] = walk at traced
  cases traced with
  | unassigned met unmet => exact ⟨_, rfl, met, unmet⟩
  | found assigned _ _ =>
    rw [assigned var reached] at free
    simp at free

/-- Whatever was done to a trail, with reasons that may explain nothing or run in circles, and whatever
the conflict, there is a least set of variables that the conflict depends on. If one of them has no
value, the walk is refused and names such a variable. If all have one, it ends and gives the entries of
these variables that are decisions above level 0, each once and sorted by level. -/
theorem relevantDecisions_exact (operations : List Trail.Operation) (conflict : Clause) :
    let trail := Trail.empty.performAll operations
    ∃ vars : Set Int, IsLeast {closed | trail.ClosedFrom conflict.literals closed} vars ∧
      ((∃ var, relevantDecisions conflict trail = .error (.conflictUnassigned var)) ↔
        ∃ var ∈ vars, trail.isAssigned var = false) ∧
      (∀ fault, relevantDecisions conflict trail = .error fault →
        ∃ var ∈ vars, trail.isAssigned var = false ∧ fault = .conflictUnassigned var) ∧
      ((∀ var ∈ vars, trail.isAssigned var = true) →
        ∃ decisions, relevantDecisions conflict trail = .ok decisions ∧
          decisions.Nodup ∧ (decisions.Pairwise fun left right => left.level ≤ right.level) ∧
          ∀ entry, entry ∈ decisions ↔ ∃ var ∈ vars, trail.entryOf? var = some entry ∧
            0 < entry.level ∧ entry.isDecision = true) := by
  intro trail
  have coherent : trail.Coherent := Trail.coherent_empty.performAll operations
  refine ⟨{var | trail.Reaches conflict.literals var}, trail.isLeast_reaches _, ?_⟩
  by_cases all : ∀ var, trail.Reaches conflict.literals var → trail.isAssigned var = true
  · obtain ⟨decisions, found, relevant, distinct, sorted⟩ := relevantDecisions_eq_ok coherent all
    refine ⟨⟨?_, ?_⟩, fun fault refused => ?_, fun _ => ⟨decisions, found, distinct, sorted, ?_⟩⟩
    · rintro ⟨var, refused⟩
      rw [found] at refused
      cases refused
    · rintro ⟨var, reached, free⟩
      rw [all var reached] at free
      cases free
    · rw [found] at refused
      cases refused
    · intro entry
      rw [relevant]
      exact coherent.relevant_iff conflict.literals entry
  · simp only [not_forall, Bool.not_eq_true] at all
    obtain ⟨var, reached, free⟩ := all
    obtain ⟨blamed, refused, met, unmet⟩ := relevantDecisions_eq_error coherent reached free
    refine ⟨⟨fun _ => ⟨blamed, met, unmet⟩, fun _ => ⟨blamed, refused⟩⟩, fun fault other => ?_,
      fun assigned => ?_⟩
    · rw [refused] at other
      exact ⟨blamed, met, unmet, (Except.error.inj other).symm⟩
    · rw [assigned blamed met] at unmet
      cases unmet

end Analysis

end Clausal
