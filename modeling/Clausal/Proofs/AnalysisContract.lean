import Mathlib
import Clausal.Proofs.Reachability
import Clausal.Proofs.Resolution
import Clausal.Proofs.UnitRefutation

/-!
# What an analysis promises

All three variants answer a conflict in the same way. At level 0 the formula is refuted. Above it the
answer is a clause that follows by unit propagation from the conflict and the reasons of the trail,
that is false on the trail, and that has one literal of the current level; the others lie at the level
to go back to or below, and one of them at that level unless it is 0. So the clause becomes unit there.

None of the variants is ever refused on an implication graph.
-/

namespace Clausal

/-- The clauses that forced the entries of the trail. -/
def Trail.reasons (trail : Trail) : List Clause :=
  trail.entries.toList.filterMap Entry.reason

/-- The reasons of a trail are those of its entries. -/
theorem Trail.mem_reasons {trail : Trail} {clause : Clause} :
    clause ∈ trail.reasons ↔ ∃ entry ∈ trail.entries, entry.reason = some clause := by
  simp [reasons]

/-- Literals that are all false make a clause. -/
theorem Clause.ofLiterals_eq_ok {given : List Literal} {valuation : Valuation}
    (denied : ∀ literal ∈ given, literal.value valuation = some false) :
    ∃ clause, Clause.ofLiterals given = .ok clause ∧
      ∀ literal, literal ∈ clause.literals ↔ literal ∈ given := by
  have consistent : ∀ literal ∈ given, literal.negate ∉ given := by
    intro literal member both
    have truth := denied literal.negate both
    rw [← Literal.value_negate_eq_true_iff, Literal.negate_negate, denied literal member] at truth
    simp at truth
  obtain ⟨clause, built⟩ := (Clause.exists_ofLiterals_iff given).2 consistent
  refine ⟨clause, built, fun literal => ?_⟩
  rw [Clause.ofLiterals_literals built, mem_keepFirst]

namespace Analysis

/-- The clause answers the conflict: it forces the asserting literal at the level. -/
structure Asserts (conflict : Clause) (trail : Trail) (clause : Clause) (level : Nat)
    (asserting : Literal) : Prop where
  /-- The level is below the current one. -/
  below : level < trail.level
  /-- The asserting literal belongs to the clause. -/
  member : asserting ∈ clause.literals
  /-- The asserting literal is false at the current level. -/
  flipped : ∃ entry ∈ trail.entries, entry.literal = asserting.negate ∧ entry.level = trail.level
  /-- The other literals are false at the level or below, and above level 0. -/
  others : ∀ literal ∈ clause.literals, literal ≠ asserting → ∃ cause ∈ trail.entries,
    cause.literal = literal.negate ∧ 0 < cause.level ∧ cause.level ≤ level
  /-- One of the others is false at the level itself, unless that is 0. -/
  peak : 0 < level → ∃ literal ∈ clause.literals, literal ≠ asserting ∧
    ∃ cause ∈ trail.entries, cause.literal = literal.negate ∧ cause.level = level
  /-- The clause follows from the conflict and the reasons of the trail. -/
  follows : FollowsByUnits (conflict :: trail.reasons) clause

/-- The analysis answers the conflict; `learns` tells whether clauses are learned. -/
inductive Answers (conflict : Clause) (trail : Trail) (learns : Bool) : Analysis → Prop
  /-- The conflict was met at level 0. -/
  | refuted (ground : trail.level = 0) : Answers conflict trail learns .refuted
  /-- A clause answers the conflict. -/
  | backjump {clause : Clause} {level : Nat} {asserting : Literal}
      (asserts : Asserts conflict trail clause level asserting) :
      Answers conflict trail learns (.backjump clause level asserting learns)

variable {trail : Trail} {numVars : Nat} {Admitted : Clause → Prop} {conflict : Clause}

/-- A clause follows from the conflict and the reasons when the conflict rests on entries each of
which the clause denies or whose reason rests on such entries again. -/
theorem follows_of_needed (grounded : trail.Grounded numVars Admitted) {clause : Clause}
    (denied : ∀ literal ∈ clause.literals, trail.valueOf literal = some false)
    (Needed : Entry → Prop)
    (explained : ∀ entry ∈ trail.entries, Needed entry → entry.literal.negate ∈ clause.literals ∨
      ∃ reason, entry.reason = some reason ∧ ∀ literal ∈ reason.literals, literal ≠ entry.literal →
        ∀ cause ∈ trail.entries, cause.literal = literal.negate → cause.index < entry.index →
          Needed cause)
    (falsified : conflict.status trail.value = .falsified)
    (blamed : ∀ literal ∈ conflict.literals, ∀ cause ∈ trail.entries,
      cause.literal = literal.negate → Needed cause) :
    FollowsByUnits (conflict :: trail.reasons) clause := by
  have coherent := grounded.coherent
  refine refutes_of_needed coherent (Clause.denial_within denied) Needed
    (fun entry member needed => ?_) List.mem_cons_self fun literal member => ?_
  · rcases explained entry member needed with inside | ⟨reason, forced, causes⟩
    · left
      have false_ := Clause.value_denial inside
      rw [← Literal.value_negate_eq_true_iff, Literal.negate_negate] at false_
      exact false_
    · obtain ⟨_, supports⟩ := grounded.supported entry member reason forced
      refine .inr ⟨reason, List.mem_cons_of_mem _ (Trail.mem_reasons.2 ⟨entry, member, forced⟩),
        supports.member, fun literal inside different => ?_⟩
      obtain ⟨cause, present, same, before⟩ := supports.earlier literal inside different
      exact ⟨cause, present, causes literal inside different cause present same before, same,
        before⟩
  · have false_ := (Clause.status_eq_falsified_iff ..).1 falsified literal member
    obtain ⟨cause, present, same⟩ := (coherent.valueOf_eq_false_iff literal).1 false_
    exact ⟨cause, present, blamed literal member cause present same, same⟩

/-- A fact is forced by facts. -/
theorem fact_explained (grounded : trail.Grounded numVars Admitted) {entry : Entry}
    (member : entry ∈ trail.entries) (fact : entry.level = 0) :
    ∃ reason, entry.reason = some reason ∧ ∀ cause ∈ trail.entries, cause.index < entry.index →
      cause.level = 0 := by
  cases forced : entry.reason with
  | none =>
    have above := grounded.decision_level_pos member forced
    omega
  | some reason =>
    refine ⟨reason, rfl, fun cause present before => ?_⟩
    have low := grounded.cause_level_le member present before
    omega

/-- Denying decisions, the last of which is the decision of the current level, asserts the opposite
of that one at the level of the last but one. -/
theorem asserts_of_decisions (grounded : trail.Grounded numVars Admitted)
    {decisions earlier : List Entry} {last : Entry} {clause : Clause}
    (reversed : decisions.reverse = last :: earlier)
    (decided : ∀ entry ∈ decisions, entry ∈ trail.entries ∧ entry.reason = none)
    (ascending : decisions.Pairwise fun left right => left.level < right.level)
    (top : last.level = trail.level)
    (shape : ∀ literal, literal ∈ clause.literals ↔
      literal ∈ decisions.map fun entry => entry.literal.negate)
    (follows : FollowsByUnits (conflict :: trail.reasons) clause) :
    Asserts conflict trail clause ((earlier.head?.map Entry.level).getD 0) last.literal.negate := by
  have listed : ∀ entry, entry ∈ decisions ↔ entry = last ∨ entry ∈ earlier := by
    intro entry
    rw [← List.mem_reverse, reversed, List.mem_cons]
  have falling := List.pairwise_reverse.2 ascending
  rw [reversed, List.pairwise_cons] at falling
  obtain ⟨lower, sorted⟩ := falling
  have lastMember : last ∈ decisions := (listed last).2 (.inl rfl)
  have inClause : ∀ entry ∈ decisions, entry.literal.negate ∈ clause.literals :=
    fun entry member => (shape _).2 (List.mem_map_of_mem member)
  have highest : ∀ entry ∈ earlier, entry.level ≤ (earlier.head?.map Entry.level).getD 0 := by
    intro entry member
    cases earlier with
    | nil => simp at member
    | cons first rest =>
      simp only [List.head?_cons, Option.map_some, Option.getD_some]
      rcases List.mem_cons.1 member with same | later
      · rw [same]
      · exact ((List.pairwise_cons.1 sorted).1 entry later).le
  refine ⟨?_, inClause last lastMember, ?_, fun literal member different => ?_, fun above => ?_,
    follows⟩
  · cases earlier with
    | nil =>
      have positive := grounded.decision_level_pos (decided last lastMember).1
        (decided last lastMember).2
      simp only [List.head?_nil, Option.map_none, Option.getD_none]
      omega
    | cons first rest =>
      have less := lower first List.mem_cons_self
      simp only [List.head?_cons, Option.map_some, Option.getD_some]
      omega
  · refine ⟨last, (decided last lastMember).1, ?_, top⟩
    rw [Literal.negate_negate]
  · obtain ⟨entry, present, same⟩ := List.mem_map.1 ((shape literal).1 member)
    have before : entry ∈ earlier := by
      rcases (listed entry).1 present with final | before
      · rw [final] at same
        exact absurd same.symm different
      · exact before
    obtain ⟨here, decision⟩ := decided entry present
    refine ⟨entry, here, ?_, grounded.decision_level_pos here decision, highest entry before⟩
    rw [← same, Literal.negate_negate]
  · cases earlier with
    | nil => simp at above
    | cons first rest =>
      have present : first ∈ decisions := (listed first).2 (.inr List.mem_cons_self)
      refine ⟨first.literal.negate, inClause first present, fun same => ?_, first,
        (decided first present).1, ?_, rfl⟩
      · have less := lower first List.mem_cons_self
        have equal := grounded.coherent.eq_of_var (decided first present).1
          (decided last lastMember).1 (congrArg Literal.var (Literal.negate_inj.1 same))
        rw [equal] at less
        omega
      · rw [Literal.negate_negate]

/-- The negations of entries of the trail make a clause. -/
theorem denials_eq_ok (coherent : trail.Coherent) {decisions : List Entry}
    (present : ∀ entry ∈ decisions, entry ∈ trail.entries) :
    ∃ clause, Clause.ofLiterals (decisions.map fun entry => entry.literal.negate) = .ok clause ∧
      (∀ literal, literal ∈ clause.literals ↔
        literal ∈ decisions.map fun entry => entry.literal.negate) ∧
      ∀ literal ∈ clause.literals, trail.valueOf literal = some false := by
  have denied : ∀ literal ∈ decisions.map fun entry => entry.literal.negate,
      trail.valueOf literal = some false := by
    intro literal member
    obtain ⟨entry, inside, same⟩ := List.mem_map.1 member
    rw [coherent.valueOf_eq_false_iff, ← same, Literal.negate_negate]
    exact ⟨entry, present entry inside, rfl⟩
  obtain ⟨clause, built, shape⟩ := Clause.ofLiterals_eq_ok denied
  exact ⟨clause, built, shape, fun literal member => denied literal ((shape literal).1 member)⟩

/-- Denying every decision answers a conflict. -/
theorem chronological_answers (grounded : trail.Grounded numVars Admitted)
    (falsified : conflict.status trail.value = .falsified) :
    ∃ analysis, chronological trail = .ok analysis ∧ Answers conflict trail false analysis := by
  by_cases ground : trail.level = 0
  · exact ⟨.refuted, by simp only [chronological, ground, if_true]; rfl, .refuted ground⟩
  obtain ⟨decisions, read, members, levels⟩ := grounded.decisions_eq_ok
  obtain ⟨clause, built, shape, denied⟩ := denials_eq_ok grounded.coherent
    fun entry member => ((members entry).1 member).1
  obtain ⟨below, above⟩ : ∃ below, trail.level = below + 1 := ⟨trail.level - 1, by omega⟩
  have count : decisions.length = below + 1 := by
    rw [← List.length_map Entry.level, levels, List.length_range', above]
  cases reversed : decisions.reverse with
  | nil =>
    rw [List.reverse_eq_nil_iff] at reversed
    simp [reversed] at count
  | cons last earlier =>
    have split : decisions = earlier.reverse ++ [last] := by
      rw [← List.reverse_reverse decisions, reversed, List.reverse_cons]
    have final : decisions.getLast? = some last := by simp [split]
    rw [split, List.map_append, above, List.range'_1_concat] at levels
    obtain ⟨before, top⟩ := List.append_inj' levels rfl
    have level : last.level = trail.level := by
      simp only [List.map_cons, List.map_nil, List.cons.injEq, and_true] at top
      omega
    have previous : (earlier.head?.map Entry.level).getD 0 = trail.level - 1 := by
      rw [← List.head?_map, ← List.getLast?_reverse, ← List.map_reverse, before, above]
      cases below with
      | zero => rfl
      | succ lower =>
        rw [List.range'_1_concat, List.getLast?_concat]
        simp only [Option.getD_some]
        omega
    have ascending : decisions.Pairwise fun left right => left.level < right.level := by
      rw [← List.pairwise_map, split, List.map_append, before]
      have whole : List.range' 1 below ++ [last].map Entry.level = List.range' 1 (below + 1) := by
        rw [List.range'_1_concat, ← top]
      rw [whole]
      exact List.pairwise_lt_range'
    have follows := follows_of_needed grounded denied (fun _ => True) (fun entry member _ => ?_)
      falsified (fun _ _ _ _ _ => trivial)
    · refine ⟨.backjump clause (trail.level - 1) last.literal.negate false, ?_, ?_⟩
      · simp only [chronological, ground, if_false, read, bind, Except.bind, final, built]
        rfl
      · have asserts := asserts_of_decisions grounded reversed
          (fun entry member => (members entry).1 member) ascending level shape follows
        rw [previous] at asserts
        exact .backjump asserts
    · cases forced : entry.reason with
      | none =>
        exact .inl ((shape _).2 (List.mem_map_of_mem ((members entry).2 ⟨member, forced⟩)))
      | some reason => exact .inr ⟨reason, rfl, fun _ _ _ _ _ _ _ => trivial⟩

/-- What a conflict reaches on an implication graph is assigned. -/
theorem assigned_of_reaches (grounded : trail.Grounded numVars Admitted)
    (falsified : conflict.status trail.value = .falsified) {var : Int}
    (reached : trail.Reaches conflict.literals var) : trail.isAssigned var = true := by
  have coherent := grounded.coherent
  have indexed : ∀ entry ∈ trail.entries, trail.isAssigned entry.var = true := by
    intro entry member
    simp [Trail.isAssigned, coherent.entryOf?_var member]
  cases reached with
  | @named literal member =>
    have denied := (Clause.status_eq_falsified_iff ..).1 falsified literal member
    obtain ⟨cause, present, same⟩ := (coherent.valueOf_eq_false_iff literal).1 denied
    have assigned := indexed cause present
    rwa [Entry.var_of_denies same] at assigned
  | @cause var entry clause literal _ held _ forced inside =>
    have member := ((coherent.indexed _ _).1 held).1
    obtain ⟨_, supports⟩ := grounded.supported entry member clause forced
    by_cases itself : literal = entry.literal
    · rw [itself]
      exact indexed entry member
    · obtain ⟨cause, present, same, _⟩ := supports.earlier literal inside itself
      have assigned := indexed cause present
      rwa [Entry.var_of_denies same] at assigned

/-- Walking back from an entry above level 0 comes to the decision of its level. Each reason names something
of the same level that stands before, so the induction is on the position. -/
theorem reaches_decision (grounded : trail.Grounded numVars Admitted) {literals : List Literal}
    {entry : Entry} (member : entry ∈ trail.entries) (above : 0 < entry.level)
    (reached : trail.Reaches literals entry.var) :
    ∃ decision ∈ trail.entries, decision.reason = none ∧ decision.level = entry.level ∧
      trail.Reaches literals decision.var := by
  have coherent := grounded.coherent
  induction place : entry.index using Nat.strong_induction_on generalizing entry with
  | _ place ih =>
    cases forced : entry.reason with
    | none => exact ⟨entry, member, forced, rfl, reached⟩
    | some clause =>
      obtain ⟨_, supports⟩ := grounded.supported entry member clause forced
      obtain ⟨literal, inside, different, cause, present, same, level⟩ := supports.sameLevel above
      obtain ⟨other, here, denied, before⟩ := supports.earlier literal inside different
      have equal : other = cause := coherent.eq_of_var here present (by
        rw [Entry.var, Entry.var, denied, same])
      have further : trail.Reaches literals cause.var := by
        rw [Entry.var_of_denies same]
        exact .cause reached (coherent.entryOf?_var member) (by omega) forced inside
      rw [equal] at before
      obtain ⟨decision, found, decided, top, route⟩ :=
        ih cause.index (by omega) present (by omega) further rfl
      exact ⟨decision, found, decided, by omega, route⟩

/-- A conflict rests on the decisions relevant to it: denying them all follows from the conflict and
the reasons. -/
theorem follows_of_relevant (grounded : trail.Grounded numVars Admitted)
    (falsified : conflict.status trail.value = .falsified) {clause : Clause}
    (denied : ∀ literal ∈ clause.literals, trail.valueOf literal = some false)
    (denies : ∀ entry, trail.Relevant conflict.literals entry →
      entry.literal.negate ∈ clause.literals) :
    FollowsByUnits (conflict :: trail.reasons) clause := by
  refine follows_of_needed grounded denied
    (fun entry => trail.Reaches conflict.literals entry.var ∨ entry.level = 0)
    (fun entry member needed => ?_) falsified (fun literal inside cause _ same => ?_)
  · by_cases fact : entry.level = 0
    · obtain ⟨reason, forced, facts⟩ := fact_explained grounded member fact
      exact .inr ⟨reason, forced, fun _ _ _ cause present _ before =>
        .inr (facts cause present before)⟩
    · have path := needed.resolve_right fact
      cases forced : entry.reason with
      | none => exact .inl (denies entry ⟨member, path, fact, forced⟩)
      | some reason =>
        refine .inr ⟨reason, rfl, fun other inside _ cause _ same _ => .inl ?_⟩
        rw [Entry.var_of_denies same]
        exact .cause path (grounded.coherent.entryOf?_var member) fact forced inside
  · rw [Entry.var_of_denies same]
    exact .inl (.named inside)

/-- The decisions relevant to a conflict are found in the order of their levels, no two of which are
the same. -/
theorem relevantDecisions_ascending (grounded : trail.Grounded numVars Admitted)
    (falsified : conflict.status trail.value = .falsified) :
    ∃ decisions, relevantDecisions conflict trail = .ok decisions ∧
      (∀ entry, entry ∈ decisions ↔ trail.Relevant conflict.literals entry) ∧
      decisions.Pairwise fun left right => left.level < right.level := by
  obtain ⟨decisions, read, relevant, distinct, sorted⟩ := relevantDecisions_eq_ok grounded.coherent
    fun var reached => assigned_of_reaches grounded falsified reached
  refine ⟨decisions, read, relevant, ?_⟩
  refine (distinct.and sorted).imp_of_mem fun {left right} leftMember rightMember both => ?_
  obtain ⟨leftPresent, _, _, leftDecision⟩ := (relevant left).1 leftMember
  obtain ⟨rightPresent, _, _, rightDecision⟩ := (relevant right).1 rightMember
  refine lt_of_le_of_ne both.2 fun same => both.1 ?_
  exact grounded.decision_unique leftPresent leftDecision rightPresent rightDecision same

/-- The decision of the current level is relevant to a conflict with a literal of that level. -/
theorem exists_relevant (grounded : trail.Grounded numVars Admitted) (above : 0 < trail.level)
    (current : ∃ literal ∈ conflict.literals, ∃ entry ∈ trail.entries,
      entry.literal = literal.negate ∧ entry.level = trail.level) :
    ∃ deepest, trail.Relevant conflict.literals deepest ∧ deepest.level = trail.level := by
  obtain ⟨literal, named, start, here, denies, top⟩ := current
  have reached : trail.Reaches conflict.literals start.var := by
    rw [Entry.var_of_denies denies]
    exact .named named
  obtain ⟨deepest, present, decision, level, route⟩ :=
    reaches_decision grounded here (by omega) reached
  exact ⟨deepest, ⟨present, route, by omega, decision⟩, by omega⟩

/-- Denying the decisions that a conflict depends on answers it. The decision of the current level is among
them, as the conflict has a literal of that level. -/
theorem nonChronological_answers (grounded : trail.Grounded numVars Admitted)
    (falsified : conflict.status trail.value = .falsified)
    (current : 0 < trail.level → ∃ literal ∈ conflict.literals, ∃ entry ∈ trail.entries,
      entry.literal = literal.negate ∧ entry.level = trail.level) :
    ∃ analysis, nonChronological conflict trail = .ok analysis ∧
      Answers conflict trail false analysis := by
  have coherent := grounded.coherent
  by_cases ground : trail.level = 0
  · exact ⟨.refuted, by simp only [nonChronological, ground, if_true]; rfl, .refuted ground⟩
  obtain ⟨decisions, read, relevant, ascending⟩ := relevantDecisions_ascending grounded falsified
  have decided : ∀ entry ∈ decisions, entry ∈ trail.entries ∧ entry.reason = none := by
    intro entry member
    obtain ⟨present, _, _, decision⟩ := (relevant entry).1 member
    exact ⟨present, decision⟩
  obtain ⟨deepest, needed, level⟩ := exists_relevant grounded (by omega) (current (by omega))
  have deepestMember : deepest ∈ decisions.reverse :=
    List.mem_reverse.2 ((relevant deepest).2 needed)
  obtain ⟨clause, built, shape, denied⟩ :=
    denials_eq_ok coherent fun entry member => (decided entry member).1
  have follows := follows_of_relevant grounded falsified denied fun entry inside =>
    (shape _).2 (List.mem_map_of_mem ((relevant entry).2 inside))
  cases reversed : decisions.reverse with
  | nil =>
    rw [reversed] at deepestMember
    simp at deepestMember
  | cons last earlier =>
    have highest : last.level = trail.level := by
      have lastMember : last ∈ decisions := by
        rw [← List.mem_reverse, reversed]
        exact List.mem_cons_self
      have bound := coherent.level_le (decided last lastMember).1
      have falling := List.pairwise_reverse.2 ascending
      rw [reversed, List.pairwise_cons] at falling
      rw [reversed, List.mem_cons] at deepestMember
      rcases deepestMember with same | before
      · rw [← same]
        omega
      · have less := falling.1 deepest before
        omega
    refine ⟨.backjump clause ((earlier.head?.map Entry.level).getD 0) last.literal.negate false, ?_,
      .backjump (asserts_of_decisions grounded reversed decided ascending highest shape follows)⟩
    simp only [nonChronological, ground, if_false, read, bind, Except.bind, reversed, built]
    rfl

/-- A conflict rests on the entry that resolution singles out, on what it puts aside and on facts. -/
theorem follows_of_singled (grounded : trail.Grounded numVars Admitted)
    (falsified : conflict.status trail.value = .falsified) {entry : Entry} {resolved : Resolvent}
    (singled : Singled trail entry resolved)
    (started : ∀ literal ∈ conflict.literals, literal.var ∈ resolved.seen) {clause : Clause}
    (denied : ∀ literal ∈ clause.literals, trail.valueOf literal = some false)
    (shape : ∀ literal, literal ∈ clause.literals ↔
      literal ∈ entry.literal.negate :: resolved.lower) :
    FollowsByUnits (conflict :: trail.reasons) clause := by
  refine follows_of_needed grounded denied
    (fun other => other.var ∈ resolved.seen ∨ other.level = 0) (fun other member needed => ?_)
    falsified (fun literal inside cause _ same => ?_)
  · by_cases fact : other.level = 0
    · obtain ⟨reason, forced, facts⟩ := fact_explained grounded member fact
      exact .inr ⟨reason, forced, fun _ _ _ cause present _ before =>
        .inr (facts cause present before)⟩
    have met := needed.resolve_right fact
    have top := grounded.coherent.level_le member
    by_cases current : other.level = trail.level
    · by_cases late : entry.index + 1 ≤ other.index
      · obtain ⟨reason, forced, seen⟩ := singled.replaced other member current late met
        refine .inr ⟨reason, forced, fun literal inside _ cause _ same _ => .inl ?_⟩
        rw [Entry.var_of_denies same]
        exact seen literal inside
      · rw [singled.single other member current (by omega) met]
        exact .inl ((shape _).2 List.mem_cons_self)
    · refine .inl ((shape _).2 (List.mem_cons_of_mem _ ((singled.aside _).2 ?_)))
      exact ⟨other, member, (Literal.negate_negate _).symm, met, by omega, by omega⟩
  · rw [Entry.var_of_denies same]
    exact .inl (started literal inside)

/-- The clause of a singled out entry asserts its opposite. The literal that reaches the highest level lies
below the current one. -/
theorem asserts_of_singled (grounded : trail.Grounded numVars Admitted)
    (falsified : conflict.status trail.value = .falsified) {entry : Entry} {resolved : Resolvent}
    (singled : Singled trail entry resolved) (above : 0 < trail.level)
    (started : ∀ literal ∈ conflict.literals, literal.var ∈ resolved.seen) :
    ∃ clause level, Clause.ofLiterals (entry.literal.negate :: resolved.lower) = .ok clause ∧
      highestLevel trail resolved.lower = .ok level ∧
      Asserts conflict trail clause level entry.literal.negate := by
  have coherent := grounded.coherent
  have denied : ∀ literal ∈ entry.literal.negate :: resolved.lower,
      trail.valueOf literal = some false := by
    intro literal member
    rw [coherent.valueOf_eq_false_iff]
    rcases List.mem_cons.1 member with same | lower
    · exact ⟨entry, singled.member, by rw [same, Literal.negate_negate]⟩
    · obtain ⟨cause, present, shape, _⟩ := (singled.aside literal).1 lower
      exact ⟨cause, present, shape⟩
  have held : ∀ (literal : Literal), ∀ cause ∈ trail.entries, cause.literal = literal.negate →
      trail.entryOf? literal.var = some cause :=
    fun literal cause present same => (coherent.indexed _ _).2 ⟨present, Entry.var_of_denies same⟩
  obtain ⟨clause, built, shape⟩ := Clause.ofLiterals_eq_ok denied
  have assigned : ∀ literal ∈ resolved.lower, trail.isAssigned literal.var = true := by
    intro literal lower
    obtain ⟨cause, present, same, _⟩ := (singled.aside literal).1 lower
    simp [Trail.isAssigned, held literal cause present same]
  obtain ⟨level, found, bound, reached⟩ := highestLevel_eq_ok assigned
  have witness : 0 < level → ∃ literal ∈ resolved.lower, ∃ cause ∈ trail.entries,
      cause.literal = literal.negate ∧ cause.level = level ∧ level < trail.level := by
    intro positive
    obtain ⟨literal, lower, other, here, top⟩ := reached positive
    obtain ⟨cause, present, same, _, _, below⟩ := (singled.aside literal).1 lower
    rw [held literal cause present same] at here
    rw [← Option.some.inj here] at top
    exact ⟨literal, lower, cause, present, same, top, by omega⟩
  refine ⟨clause, level, built, found, ?_, (shape _).2 List.mem_cons_self, ?_, ?_, ?_, ?_⟩
  · by_cases positive : 0 < level
    · obtain ⟨_, _, _, _, _, _, below⟩ := witness positive
      exact below
    · omega
  · exact ⟨entry, singled.member, (Literal.negate_negate _).symm, singled.current⟩
  · intro literal member different
    have lower : literal ∈ resolved.lower :=
      (List.mem_cons.1 ((shape literal).1 member)).resolve_left different
    obtain ⟨cause, present, same, _, positive, _⟩ := (singled.aside literal).1 lower
    exact ⟨cause, present, same, positive,
      bound literal lower cause (held literal cause present same)⟩
  · intro positive
    obtain ⟨literal, lower, cause, present, same, top, below⟩ := witness positive
    refine ⟨literal, (shape literal).2 (List.mem_cons_of_mem _ lower), fun equal => ?_, cause,
      present, same, top⟩
    have itself : cause = entry := by
      refine coherent.eq_of_var present singled.member ?_
      rw [Entry.var, same, equal, Literal.negate_negate]
      rfl
    rw [itself, singled.current] at top
    omega
  · exact follows_of_singled grounded falsified singled started
      (fun literal member => denied literal ((shape literal).1 member)) shape

/-- A conflict with a literal of the current level is resolved by one walk down the trail, which starts
from what the conflict names and keeps what is kept along the trail. -/
theorem resolve_conflict (grounded : trail.Grounded numVars Admitted)
    (falsified : conflict.status trail.value = .falsified)
    (current : ∃ literal ∈ conflict.literals, ∃ entry ∈ trail.entries,
      entry.literal = literal.negate ∧ entry.level = trail.level)
    (Kept : Nat → List Int → Prop) (along : KeptAlong trail Kept)
    (start : ∀ seen, (∀ var, var ∈ seen ↔ ∃ literal ∈ conflict.literals, literal.var = var) →
      Kept trail.size seen) :
    ∃ gathered entry resolved,
      Resolvent.absorbAll trail trail.level .start conflict = .ok gathered ∧
      gathered.pending ≠ 0 ∧
      resolve trail trail.level trail.entries.toList.reverse gathered = .ok (entry, resolved) ∧
      Singled trail entry resolved ∧
      (∀ literal ∈ conflict.literals, literal.var ∈ resolved.seen) ∧
      Kept (entry.index + 1) resolved.seen := by
  have coherent := grounded.coherent
  have denied : ∀ literal ∈ conflict.literals,
      Resolvent.Denied trail trail.size Resolvent.start.seen literal := by
    intro literal member
    have false_ := (Clause.status_eq_falsified_iff ..).1 falsified literal member
    obtain ⟨cause, present, same⟩ := (coherent.valueOf_eq_false_iff literal).1 false_
    exact .inr ⟨cause, present, same, coherent.index_lt present⟩
  obtain ⟨gathered, waiting, taken, gathers, noted⟩ :=
    Resolvent.absorbAll_eq_ok coherent (Resolvent.gathers_start trail trail.size) denied
  have named : ∀ literal ∈ conflict.literals, literal.var ∈ gathered.seen :=
    fun literal member => (noted _).2 (.inr ⟨literal, member, rfl⟩)
  have begun : ∀ var, var ∈ gathered.seen ↔ ∃ literal ∈ conflict.literals, literal.var = var := by
    intro var
    rw [noted]
    simp [Resolvent.start]
  have replaced : Resolvent.Replaced trail trail.size gathered.seen := by
    intro entry member _ late _
    have inside := coherent.index_lt member
    omega
  have open_ : waiting ≠ [] := by
    obtain ⟨literal, member, entry, present, same, level⟩ := current
    refine List.ne_nil_of_mem ((gathers.waits entry).2
      ⟨present, coherent.index_lt present, level, ?_⟩)
    rw [Entry.var_of_denies same]
    exact named literal member
  have pending : gathered.pending ≠ 0 := by
    rw [gathers.counted, ← Nat.pos_iff_ne_zero, List.length_pos_iff]
    exact open_
  have both : KeptAlong trail fun bound seen =>
      (∀ literal ∈ conflict.literals, literal.var ∈ seen) ∧ Kept bound seen := by
    intro entry member seen more passes before kept
    refine ⟨fun literal inside => ?_, along entry member seen more passes before kept.2⟩
    cases passes with
    | unmet _ => exact kept.1 literal inside
    | resolved _ _ _ grown => exact (grown _).2 (.inl (kept.1 literal inside))
  obtain ⟨entry, resolved, finished, singled, met, kept⟩ :=
    resolve_eq_ok grounded both le_rfl gathers open_ replaced ⟨named, start _ begun⟩
  have whole : trail.entries.toList.take trail.size = trail.entries.toList :=
    List.take_of_length_le (by rw [Array.length_toList, Trail.size])
  rw [whole] at finished
  exact ⟨gathered, entry, resolved, taken, pending, finished, singled, met, kept⟩

/-- Resolving a conflict above level 0 learns the opposite of the entry that is singled out, with what
was put aside. -/
theorem firstUip_eq_ok (grounded : trail.Grounded numVars Admitted)
    (falsified : conflict.status trail.value = .falsified) (above : 0 < trail.level)
    (current : ∃ literal ∈ conflict.literals, ∃ entry ∈ trail.entries,
      entry.literal = literal.negate ∧ entry.level = trail.level)
    (Kept : Nat → List Int → Prop) (along : KeptAlong trail Kept)
    (start : ∀ seen, (∀ var, var ∈ seen ↔ ∃ literal ∈ conflict.literals, literal.var = var) →
      Kept trail.size seen) :
    ∃ entry resolved clause level,
      firstUip conflict trail = .ok (.backjump clause level entry.literal.negate true) ∧
      Asserts conflict trail clause level entry.literal.negate ∧ Singled trail entry resolved ∧
      (∀ literal, literal ∈ clause.literals ↔ literal ∈ entry.literal.negate :: resolved.lower) ∧
      (∀ literal ∈ conflict.literals, literal.var ∈ resolved.seen) ∧
      Kept (entry.index + 1) resolved.seen := by
  obtain ⟨gathered, entry, resolved, taken, pending, walked, singled, named, kept⟩ :=
    resolve_conflict grounded falsified current Kept along start
  have finished := resolve_append walked trail.entries.toList.reverse
  obtain ⟨clause, level, built, highest, asserts⟩ :=
    asserts_of_singled grounded falsified singled above named
  refine ⟨entry, resolved, clause, level, ?_, asserts, singled, fun literal => ?_, named, kept⟩
  · simp only [firstUip, above.ne', if_false, bind, Except.bind, taken, pending, finished, built,
      highest]
    rfl
  · rw [Clause.ofLiterals_literals built, mem_keepFirst]

/-- Resolving a conflict up to a single literal of the current level answers it. -/
theorem firstUip_answers (grounded : trail.Grounded numVars Admitted)
    (falsified : conflict.status trail.value = .falsified)
    (current : 0 < trail.level → ∃ literal ∈ conflict.literals, ∃ entry ∈ trail.entries,
      entry.literal = literal.negate ∧ entry.level = trail.level) :
    ∃ analysis, firstUip conflict trail = .ok analysis ∧ Answers conflict trail true analysis := by
  by_cases ground : trail.level = 0
  · exact ⟨.refuted, by simp only [firstUip, ground, if_true]; rfl, .refuted ground⟩
  · have above : 0 < trail.level := by omega
    obtain ⟨entry, resolved, clause, level, found, asserts, _⟩ := firstUip_eq_ok grounded falsified
      above (current above) (fun _ _ => True) (fun _ _ _ _ _ _ _ => trivial) fun _ _ => trivial
    exact ⟨_, found, .backjump asserts⟩

/-- Every variant answers a falsified clause that has a literal of the current level. -/
theorem ofConflict_answers (variant : Variant) (grounded : trail.Grounded numVars Admitted)
    (falsified : conflict.status trail.value = .falsified)
    (current : 0 < trail.level → ∃ literal ∈ conflict.literals, ∃ entry ∈ trail.entries,
      entry.literal = literal.negate ∧ entry.level = trail.level) :
    ∃ analysis, ofConflict variant conflict trail = .ok analysis ∧
      Answers conflict trail (decide (variant = .cdcl)) analysis := by
  cases variant with
  | plain => exact chronological_answers grounded falsified
  | backjump => exact nonChronological_answers grounded falsified current
  | cdcl => exact firstUip_answers grounded falsified current

namespace Asserts

variable {clause : Clause} {level : Nat} {asserting : Literal}

/-- Every literal of the clause is false on the trail. -/
theorem denied (asserts : Asserts conflict trail clause level asserting) :
    ∀ literal ∈ clause.literals, ∃ cause ∈ trail.entries, cause.literal = literal.negate := by
  intro literal member
  by_cases itself : literal = asserting
  · obtain ⟨flipped, present, same, _⟩ := asserts.flipped
    exact ⟨flipped, present, by rw [itself, same]⟩
  · obtain ⟨cause, present, same, _⟩ := asserts.others literal member itself
    exact ⟨cause, present, same⟩

/-- The clause keeps within the variables of the trail. -/
theorem inRange (asserts : Asserts conflict trail clause level asserting)
    (grounded : trail.Grounded numVars Admitted) : clause.InRange numVars := by
  intro literal member
  obtain ⟨cause, present, same⟩ := asserts.denied literal member
  have range := grounded.inRange cause present
  rw [same] at range
  exact range

/-- The clause holds wherever the conflict and the admitted clauses do. -/
theorem holds (asserts : Asserts conflict trail clause level asserting)
    (grounded : trail.Grounded numVars Admitted) {reading : Int → Bool}
    (agrees : ∀ other, Admitted other → other.Holds reading) (blamed : conflict.Holds reading) :
    clause.Holds reading := by
  refine asserts.follows.holds fun other listed => ?_
  rcases List.mem_cons.1 listed with same | reason
  · rw [same]
    exact blamed
  · obtain ⟨entry, member, forced⟩ := Trail.mem_reasons.1 reason
    exact agrees other (grounded.supported entry member other forced).1

/-- The asserting literal has no value at the level to go back to or below. -/
theorem free (asserts : Asserts conflict trail clause level asserting)
    (coherent : trail.Coherent) {lower : Nat} (low : lower ≤ level) :
    trail.upTo lower asserting.var = none := by
  obtain ⟨flipped, present, same, top⟩ := asserts.flipped
  rw [coherent.upTo_eq_none_iff]
  intro entry member named
  have below := asserts.below
  rw [coherent.eq_of_denies member present named same, top]
  omega

/-- At the level to go back to, the clause forces the asserting literal. -/
theorem unit (asserts : Asserts conflict trail clause level asserting)
    (coherent : trail.Coherent) : clause.status (trail.upTo level) = .unit asserting := by
  refine (Clause.status_eq_unit_iff ..).2
    ⟨asserts.member, asserts.free coherent le_rfl, fun other inside different => ?_⟩
  obtain ⟨cause, present, same, _, low⟩ := asserts.others other inside different
  exact (coherent.value_upTo_eq_false_iff ..).2 ⟨cause, present, same, low⟩

/-- Below the level to go back to, the clause forces nothing. -/
theorem settled (asserts : Asserts conflict trail clause level asserting)
    (coherent : trail.Coherent) {lower : Nat} (below : lower < level) :
    clause.Settled (trail.upTo lower) := by
  obtain ⟨literal, inside, different, cause, present, same, top⟩ := asserts.peak (by omega)
  refine (Clause.settled_iff ..).2 (.inr ⟨literal, inside, asserting, asserts.member, different, ?_,
    asserts.free coherent below.le⟩)
  rw [coherent.upTo_eq_none_iff]
  intro entry member named
  rw [coherent.eq_of_denies member present named same, top]
  exact below

/-- Going back reaches the level. -/
theorem level_undoTo (asserts : Asserts conflict trail clause level asserting) :
    (trail.undoTo level).1.level = level := by
  have below := asserts.below
  rw [Trail.level_undoTo]
  omega

/-- After going back, one of the other literals is false at the current level, unless that is 0. -/
theorem peak_undoTo (asserts : Asserts conflict trail clause level asserting)
    (coherent : trail.Coherent) (above : 0 < (trail.undoTo level).1.level) :
    ∃ other ∈ clause.literals, other ≠ asserting ∧ ∃ cause ∈ (trail.undoTo level).1.entries,
      cause.literal = other.negate ∧ cause.level = (trail.undoTo level).1.level := by
  rw [asserts.level_undoTo] at above ⊢
  obtain ⟨literal, inside, different, cause, present, same, top⟩ := asserts.peak above
  exact ⟨literal, inside, different, cause, coherent.mem_undoTo.2 ⟨present, top.le⟩, same, top⟩

/-- Going back and asserting the literal keeps the implication graph. -/
theorem grounded_extend (asserts : Asserts conflict trail clause level asserting)
    (grounded : trail.Grounded numVars Admitted) {reason : Clause} (admitted : Admitted reason)
    (literals : reason.literals = clause.literals) :
    ((trail.undoTo level).1.extend asserting (some reason)).Grounded numVars Admitted := by
  have coherent := grounded.coherent
  obtain ⟨member, free, others⟩ := (Clause.status_eq_unit_iff ..).1 (asserts.unit coherent)
  rw [← coherent.value_undoTo] at free others
  refine (grounded.undoTo level).extend free (asserts.inRange grounded asserting member) admitted
    (by rw [literals]; exact member) ?_ ?_
  · rw [literals]
    exact others
  · rw [literals]
    exact asserts.peak_undoTo coherent

end Asserts

end Analysis

end Clausal
