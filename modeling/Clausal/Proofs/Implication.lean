import Mathlib
import Clausal.Proofs.Coherence

/-!
# The implication graph of a trail

Every entry without a reason opens a level, and every other entry is explained by its reason: the
clause holds the entry's literal, and all its other literals were false before. Above level 0 one of
those was made false at the entry's own level, so nothing stands at a level that it does not depend
on. Which clauses may serve as reasons is left open; the predicate `Admitted` names them.

Three things happen to a trail in a search. A clause forces a literal at the current level, a
decision opens a level, and an undoing goes back to an earlier level. Each keeps the graph.
-/

namespace Clausal

namespace Trail

/-- The valuation of the entries at the level and below. -/
def upTo (trail : Trail) (level : Nat) : Valuation :=
  fun var => ((trail.entryOf? var).filter fun entry => entry.level ≤ level).map Entry.truth

/-- The clause explains how the entry came about. -/
structure Supports (trail : Trail) (clause : Clause) (entry : Entry) : Prop where
  /-- The clause holds the literal of the entry. -/
  member : entry.literal ∈ clause.literals
  /-- Every other literal was false before. -/
  earlier : ∀ literal ∈ clause.literals, literal ≠ entry.literal →
    ∃ cause ∈ trail.entries, cause.literal = literal.negate ∧ cause.index < entry.index
  /-- Above level 0 some other literal was made false at the entry's own level. -/
  sameLevel : 0 < entry.level → ∃ literal ∈ clause.literals, literal ≠ entry.literal ∧
    ∃ cause ∈ trail.entries, cause.literal = literal.negate ∧ cause.level = entry.level

/-- The trail is an implication graph over the variables 1 to `numVars` with admitted reasons. -/
structure Grounded (trail : Trail) (numVars : Nat) (Admitted : Clause → Prop) : Prop where
  /-- The parts of the trail agree. -/
  coherent : trail.Coherent
  /-- The variables keep within the range. -/
  inRange : ∀ entry ∈ trail.entries, entry.literal.InRange numVars
  /-- No two levels start at one place. -/
  ascending : trail.levelStarts.toList.Pairwise (· < ·)
  /-- Each level has an entry at its start. -/
  started : ∀ start ∈ trail.levelStarts, start < trail.size
  /-- The entries without a reason are those at the start of a level. -/
  opening : ∀ entry ∈ trail.entries, entry.reason = none ↔ entry.index ∈ trail.levelStarts
  /-- Every reason is admitted and explains its entry. -/
  supported : ∀ entry ∈ trail.entries, ∀ clause, entry.reason = some clause →
    Admitted clause ∧ trail.Supports clause entry

/-- What explains an entry still does when the trail has more entries. -/
theorem Supports.mono {trail larger : Trail} {clause : Clause} {entry : Entry}
    (supports : trail.Supports clause entry)
    (kept : ∀ other ∈ trail.entries, other ∈ larger.entries) : larger.Supports clause entry := by
  refine ⟨supports.member, fun literal member different => ?_, fun above => ?_⟩
  · obtain ⟨cause, present, rest⟩ := supports.earlier literal member different
    exact ⟨cause, kept cause present, rest⟩
  · obtain ⟨literal, member, different, cause, present, rest⟩ := supports.sameLevel above
    exact ⟨literal, member, different, cause, kept cause present, rest⟩

/-- The trail without entries is an implication graph. -/
theorem grounded_empty (numVars : Nat) (Admitted : Clause → Prop) :
    Grounded empty numVars Admitted := by
  refine ⟨coherent_empty, ?_, ?_, ?_, ?_, ?_⟩ <;> simp [empty]

/-- What an undoing leaves is the valuation of the levels that remain. -/
theorem Coherent.value_undoTo {trail : Trail} (coherent : trail.Coherent) (level : Nat) :
    (trail.undoTo level).1.value = trail.upTo level := by
  funext var
  rw [value, coherent.entryOf?_undoTo]
  rfl

/-- The levels up to the current one are the whole trail. -/
theorem Coherent.upTo_level {trail : Trail} (coherent : trail.Coherent) {level : Nat}
    (reached : trail.level ≤ level) : trail.upTo level = trail.value := by
  rw [← coherent.value_undoTo, undoTo_of_le reached]

/-- A literal is true at a level exactly when an entry of that level or below holds it. -/
theorem Coherent.value_upTo_eq_true_iff {trail : Trail} (coherent : trail.Coherent) (level : Nat)
    (literal : Literal) :
    literal.value (trail.upTo level) = some true ↔
      ∃ entry ∈ trail.entries, entry.literal = literal ∧ entry.level ≤ level := by
  rw [← coherent.value_undoTo]
  have reading := (coherent.undoTo level).valueOf_eq_true_iff literal
  unfold valueOf at reading
  rw [reading]
  constructor
  · rintro ⟨entry, member, same⟩
    obtain ⟨present, low⟩ := coherent.mem_undoTo.1 member
    exact ⟨entry, present, same, low⟩
  · rintro ⟨entry, present, same, low⟩
    exact ⟨entry, coherent.mem_undoTo.2 ⟨present, low⟩, same⟩

/-- A literal is false at a level exactly when an entry of that level or below denies it. -/
theorem Coherent.value_upTo_eq_false_iff {trail : Trail} (coherent : trail.Coherent) (level : Nat)
    (literal : Literal) :
    literal.value (trail.upTo level) = some false ↔
      ∃ entry ∈ trail.entries, entry.literal = literal.negate ∧ entry.level ≤ level := by
  rw [← coherent.value_upTo_eq_true_iff, Literal.value_negate_eq_true_iff]

/-- A variable has no value at a level exactly when no entry of that level or below assigns it. -/
theorem Coherent.upTo_eq_none_iff {trail : Trail} (coherent : trail.Coherent) (level : Nat)
    (var : Int) :
    trail.upTo level var = none ↔
      ∀ entry ∈ trail.entries, entry.var = var → level < entry.level := by
  rw [← coherent.value_undoTo, (coherent.undoTo level).value_eq_none_iff]
  constructor
  · intro absent entry present same
    by_contra low
    exact absent entry (coherent.mem_undoTo.2 ⟨present, by omega⟩) same
  · intro above entry member same
    obtain ⟨present, low⟩ := coherent.mem_undoTo.1 member
    have high := above entry present same
    omega

/-- An extension at the current level does not touch the levels below. -/
theorem upTo_extend {trail : Trail} {literal : Literal} (free : trail.value literal.var = none)
    (reason : Option Clause) {level : Nat} (below : level < trail.level) :
    (trail.extend literal reason).upTo level = trail.upTo level := by
  have absent : trail.entryOf? literal.var = none := by simpa [value] using free
  funext var
  unfold upTo
  rw [entryOf?_extend]
  split
  · rename_i same
    rw [← same, absent, Option.filter_some_neg (by simpa using below)]
    rfl
  · rfl

/-- Opening a level assigns nothing. -/
theorem upTo_newLevel (trail : Trail) (level : Nat) : trail.newLevel.upTo level = trail.upTo level :=
  rfl

namespace Grounded

variable {trail : Trail} {numVars : Nat} {Admitted : Clause → Prop}

/-- A clause that explains a literal at the current level extends the graph. -/
theorem extend (grounded : trail.Grounded numVars Admitted) {clause : Clause} {literal : Literal}
    (free : trail.value literal.var = none) (range : literal.InRange numVars)
    (admitted : Admitted clause) (member : literal ∈ clause.literals)
    (denied : ∀ other ∈ clause.literals, other ≠ literal → trail.valueOf other = some false)
    (sameLevel : 0 < trail.level → ∃ other ∈ clause.literals, other ≠ literal ∧
      ∃ cause ∈ trail.entries, cause.literal = other.negate ∧ cause.level = trail.level) :
    (trail.extend literal (some clause)).Grounded numVars Admitted := by
  have coherent := grounded.coherent
  have kept : ∀ entry ∈ trail.entries, entry ∈ (trail.extend literal (some clause)).entries :=
    fun entry present => mem_extend.2 (.inl present)
  refine ⟨coherent.extend free _, ?_, grounded.ascending, ?_, ?_, ?_⟩
  · intro entry present
    rcases mem_extend.1 present with old | new
    · exact grounded.inRange entry old
    · rw [new]
      exact range
  · intro start opened
    have inside := grounded.started start opened
    simp only [size, Trail.extend, Array.size_push] at inside ⊢
    omega
  · intro entry present
    rcases mem_extend.1 present with old | new
    · exact grounded.opening entry old
    · rw [new]
      constructor
      · intro absent
        simp at absent
      · intro opened
        have inside := grounded.started trail.size opened
        omega
  · intro entry present reason forced
    rcases mem_extend.1 present with old | new
    · obtain ⟨fits, supports⟩ := grounded.supported entry old reason forced
      exact ⟨fits, supports.mono kept⟩
    · subst new
      have shape : clause = reason := by simpa using forced
      subst shape
      refine ⟨admitted, member, fun other inside different => ?_, fun above => ?_⟩
      · obtain ⟨cause, here, same⟩ :=
          (coherent.valueOf_eq_false_iff other).1 (denied other inside different)
        exact ⟨cause, kept cause here, same, coherent.index_lt here⟩
      · obtain ⟨other, inside, different, cause, here, same⟩ := sameLevel above
        exact ⟨other, inside, different, cause, kept cause here, same⟩

/-- A decision opens a level of the graph. -/
theorem decide (grounded : trail.Grounded numVars Admitted) {literal : Literal}
    (free : trail.value literal.var = none) (range : literal.InRange numVars) :
    (trail.newLevel.extend literal none).Grounded numVars Admitted := by
  have coherent := grounded.coherent
  have kept : ∀ entry ∈ trail.entries, entry ∈ (trail.newLevel.extend literal none).entries :=
    fun entry present => mem_extend.2 (.inl present)
  have starts : (trail.newLevel.extend literal none).levelStarts =
      trail.levelStarts.push trail.size := rfl
  refine ⟨coherent.newLevel.extend free _, ?_, ?_, ?_, ?_, ?_⟩
  · intro entry present
    rcases mem_extend.1 present with old | new
    · exact grounded.inRange entry old
    · rw [new]
      exact range
  · rw [starts, Array.toList_push, List.pairwise_append]
    refine ⟨grounded.ascending, List.pairwise_singleton .., fun start opened last single => ?_⟩
    rw [List.mem_singleton.1 single]
    exact grounded.started start (by simpa using opened)
  · intro start opened
    rw [starts] at opened
    have grown : (trail.newLevel.extend literal none).size = trail.size + 1 := by
      simp [size, Trail.extend, Trail.newLevel]
    rcases Array.mem_push.1 opened with old | new
    · have inside := grounded.started start old
      omega
    · omega
  · intro entry present
    rw [starts, Array.mem_push]
    rcases mem_extend.1 present with old | new
    · have inside := coherent.index_lt old
      have apart : entry.index ≠ trail.size := by omega
      simp only [apart, or_false]
      exact grounded.opening entry old
    · subst new
      simp only [true_iff]
      exact .inr rfl
  · intro entry present reason forced
    rcases mem_extend.1 present with old | new
    · obtain ⟨fits, supports⟩ := grounded.supported entry old reason forced
      exact ⟨fits, supports.mono kept⟩
    · rw [new] at forced
      simp at forced

/-- Going back to a level keeps the graph below. -/
theorem undoTo (grounded : trail.Grounded numVars Admitted) (level : Nat) :
    (trail.undoTo level).1.Grounded numVars Admitted := by
  by_cases below : level < trail.level
  · have coherent := grounded.coherent
    obtain ⟨start, found⟩ := exists_start below
    have starts := levelStarts_undoTo found
    have cut := coherent.size_undoTo found
    have ordered : ∀ (place other : Nat), trail.levelStarts[place]? = some other →
        (other < start ↔ place < level) := by
      intro place other here
      have sorted := List.pairwise_iff_getElem.1 grounded.ascending
      obtain ⟨bound, shape⟩ := Array.getElem?_eq_some_iff.1 found
      obtain ⟨inside, early⟩ := Array.getElem?_eq_some_iff.1 here
      simp only [Array.length_toList, Array.getElem_toList] at sorted
      constructor
      · intro smaller
        by_contra late
        rcases Nat.lt_or_ge level place with after | same
        · have step := sorted level place bound inside after
          omega
        · have equal : place = level := by omega
          subst equal
          omega
      · intro before
        have step := sorted place level inside bound before
        omega
    have remains : ∀ other, other ∈ trail.levelStarts.take level ↔
        other ∈ trail.levelStarts ∧ other < start := by
      intro other
      constructor
      · intro member
        obtain ⟨place, here⟩ := Array.mem_iff_getElem?.1 member
        rw [getElem?_take] at here
        split at here
        · rename_i before
          exact ⟨Array.mem_of_getElem? here, (ordered place other here).2 before⟩
        · simp at here
      · rintro ⟨member, smaller⟩
        obtain ⟨place, here⟩ := Array.mem_iff_getElem?.1 member
        apply Array.mem_of_getElem? (i := place)
        rw [getElem?_take, if_pos ((ordered place other here).1 smaller)]
        exact here
    refine ⟨coherent.undoTo level, ?_, ?_, ?_, ?_, ?_⟩
    · intro entry member
      exact grounded.inRange entry (coherent.mem_undoTo.1 member).1
    · rw [starts, toList_take]
      exact grounded.ascending.sublist (List.take_sublist ..)
    · intro other member
      rw [starts, remains] at member
      omega
    · intro entry member
      obtain ⟨present, low⟩ := coherent.mem_undoTo.1 member
      have early := (coherent.level_le_iff present found).1 low
      rw [starts, remains, grounded.opening entry present]
      tauto
    · intro entry member clause forced
      obtain ⟨present, low⟩ := coherent.mem_undoTo.1 member
      obtain ⟨admitted, supports⟩ := grounded.supported entry present clause forced
      refine ⟨admitted, supports.member, fun literal inside different => ?_, fun above => ?_⟩
      · obtain ⟨cause, here, same, before⟩ := supports.earlier literal inside different
        have lower := coherent.level_mono here present before.le
        exact ⟨cause, coherent.mem_undoTo.2 ⟨here, by omega⟩, same, before⟩
      · obtain ⟨literal, inside, different, cause, here, same, level⟩ := supports.sameLevel above
        exact ⟨literal, inside, different, cause, coherent.mem_undoTo.2 ⟨here, by omega⟩, same,
          level⟩
  · rw [undoTo_of_le (by omega)]
    exact grounded

/-- The cause of an entry is not above it. -/
theorem cause_level_le (grounded : trail.Grounded numVars Admitted) {entry cause : Entry}
    (member : entry ∈ trail.entries) (present : cause ∈ trail.entries)
    (before : cause.index < entry.index) : cause.level ≤ entry.level :=
  grounded.coherent.level_mono present member before.le

/-- A reading that agrees with the admitted clauses and with the decisions up to a level agrees with every
entry up to that level. The causes of an entry stand before it, so the induction is on the position. -/
theorem holds_of_decisions (grounded : trail.Grounded numVars Admitted) {reading : Int → Bool}
    (agrees : ∀ clause, Admitted clause → clause.Holds reading) {level : Nat}
    (decided : ∀ entry ∈ trail.entries, entry.reason = none → entry.level ≤ level →
      entry.literal.Holds reading) :
    ∀ entry ∈ trail.entries, entry.level ≤ level → entry.literal.Holds reading := by
  suffices claim : ∀ position, ∀ entry ∈ trail.entries, entry.index = position →
      entry.level ≤ level → entry.literal.Holds reading from
    fun entry member low => claim entry.index entry member rfl low
  intro position
  induction position using Nat.strong_induction_on with
  | _ position ih =>
    intro entry member here low
    cases forced : entry.reason with
    | none => exact decided entry member forced low
    | some clause =>
      obtain ⟨admitted, supports⟩ := grounded.supported entry member clause forced
      obtain ⟨literal, inside, holds⟩ := agrees clause admitted
      by_cases same : literal = entry.literal
      · rw [← same]
        exact holds
      · obtain ⟨cause, present, denied, before⟩ := supports.earlier literal inside same
        have lower := grounded.cause_level_le member present before
        have opposite := ih cause.index (by omega) cause present rfl (by omega)
        rw [denied, Literal.holds_negate_iff] at opposite
        exact absurd holds opposite

/-- The entry at the start of the level numbered `place + 1` belongs to that level. -/
theorem level_of_start (grounded : trail.Grounded numVars Admitted) {entry : Entry}
    (member : entry ∈ trail.entries) {place : Nat}
    (found : trail.levelStarts[place]? = some entry.index) : entry.level = place + 1 := by
  have coherent := grounded.coherent
  have high : ¬entry.level ≤ place := by
    rw [coherent.level_le_iff member found]
    omega
  have low : entry.level ≤ place + 1 := by
    by_contra above
    have bound := coherent.level_le member
    have below : place + 1 < trail.level := by omega
    obtain ⟨next, here⟩ := exists_start below
    have early : ¬entry.index < next := by
      rw [← coherent.level_le_iff member here]
      omega
    have sorted := List.pairwise_iff_getElem.1 grounded.ascending
    obtain ⟨first, firstShape⟩ := Array.getElem?_eq_some_iff.1 found
    obtain ⟨second, secondShape⟩ := Array.getElem?_eq_some_iff.1 here
    have step := sorted place (place + 1) (by simpa using first) (by simpa using second) (by omega)
    simp only [Array.getElem_toList] at step
    omega
  omega

/-- A decision stands at the start of its level. -/
theorem start_of_decision (grounded : trail.Grounded numVars Admitted) {entry : Entry}
    (member : entry ∈ trail.entries) (decision : entry.reason = none) :
    ∃ place, trail.levelStarts[place]? = some entry.index ∧ entry.level = place + 1 := by
  have opened := (grounded.opening entry member).1 decision
  obtain ⟨place, found⟩ := Array.mem_iff_getElem?.1 opened
  exact ⟨place, found, grounded.level_of_start member found⟩

/-- A decision is above level 0. -/
theorem decision_level_pos (grounded : trail.Grounded numVars Admitted) {entry : Entry}
    (member : entry ∈ trail.entries) (decision : entry.reason = none) : 0 < entry.level := by
  obtain ⟨place, _, level⟩ := grounded.start_of_decision member decision
  omega

/-- A decision comes before everything else of its level and above. -/
theorem decision_first (grounded : trail.Grounded numVars Admitted) {entry other : Entry}
    (member : entry ∈ trail.entries) (decision : entry.reason = none)
    (present : other ∈ trail.entries) (above : entry.level ≤ other.level) :
    entry.index ≤ other.index := by
  obtain ⟨place, found, level⟩ := grounded.start_of_decision member decision
  have late : ¬other.index < entry.index := by
    rw [← grounded.coherent.level_le_iff present found]
    omega
  omega

/-- A level has one decision. -/
theorem decision_unique (grounded : trail.Grounded numVars Admitted) {left right : Entry}
    (leftMember : left ∈ trail.entries) (leftDecision : left.reason = none)
    (rightMember : right ∈ trail.entries) (rightDecision : right.reason = none)
    (same : left.level = right.level) : left = right := by
  apply grounded.coherent.eq_of_index leftMember rightMember
  have forward := grounded.decision_first leftMember leftDecision rightMember same.le
  have backward := grounded.decision_first rightMember rightDecision leftMember same.ge
  omega

end Grounded

/-- Reading positions one by one succeeds when each holds an entry. -/
theorem mapM_entryAt {trail : Trail} {starts : List Nat}
    (inside : ∀ start ∈ starts, start < trail.size) :
    ∃ found, starts.mapM trail.entryAt = .ok found ∧
      List.Forall₂ (fun start entry => trail.entries[start]? = some entry) starts found := by
  induction starts with
  | nil => exact ⟨[], rfl, .nil⟩
  | cons start rest ih =>
    obtain ⟨found, read, matched⟩ := ih fun other member => inside other (List.mem_cons_of_mem _ member)
    have bound : start < trail.entries.size := inside start List.mem_cons_self
    have here : trail.entries[start]? = some trail.entries[start] := Array.getElem?_eq_getElem bound
    refine ⟨trail.entries[start] :: found, ?_, .cons here matched⟩
    have first : trail.entryAt start = .ok trail.entries[start] := by simp [entryAt, here]
    rw [List.mapM_cons, first, read]
    rfl

/-- The decisions of an implication graph are its entries without a reason, one for each level above
0, in the order of their levels. -/
theorem Grounded.decisions_eq_ok {trail : Trail} {numVars : Nat} {Admitted : Clause → Prop}
    (grounded : trail.Grounded numVars Admitted) :
    ∃ decisions, trail.decisions = .ok decisions ∧
      (∀ entry, entry ∈ decisions ↔ entry ∈ trail.entries ∧ entry.reason = none) ∧
      decisions.map Entry.level = List.range' 1 trail.level := by
  have inside : ∀ start ∈ trail.levelStarts.toList, start < trail.size :=
    fun start member => grounded.started start (by simpa using member)
  obtain ⟨decisions, read, matched⟩ := mapM_entryAt inside
  have coherent := grounded.coherent
  have length := matched.length_eq
  have at_ : ∀ (place : Nat) (entry : Entry), decisions[place]? = some entry →
      trail.levelStarts[place]? = some entry.index ∧ entry ∈ trail.entries := by
    intro place entry here
    obtain ⟨bound, shape⟩ := List.getElem?_eq_some_iff.1 here
    have pair := (List.forall₂_iff_get.1 matched).2 place (by omega) bound
    simp only [List.get_eq_getElem, shape] at pair
    have index := coherent.placed _ _ pair
    refine ⟨?_, Array.mem_of_getElem? pair⟩
    rw [index, Array.getElem_toList]
    exact Array.getElem?_eq_getElem (by rw [← Array.length_toList]; omega)
  refine ⟨decisions, read, fun entry => ⟨fun member => ?_, fun ⟨present, decision⟩ => ?_⟩, ?_⟩
  · obtain ⟨place, here⟩ := List.mem_iff_getElem?.1 member
    obtain ⟨found, present⟩ := at_ place entry here
    exact ⟨present, (grounded.opening entry present).2 (Array.mem_of_getElem? found)⟩
  · obtain ⟨place, found, _⟩ := grounded.start_of_decision present decision
    obtain ⟨bound, _⟩ := Array.getElem?_eq_some_iff.1 found
    have inside : place < decisions.length := by
      rw [← length, Array.length_toList]
      exact bound
    have here := List.getElem?_eq_getElem inside
    obtain ⟨other, member⟩ := at_ place _ here
    rw [found] at other
    have same := coherent.eq_of_index present member (Option.some.inj other)
    rw [same]
    exact List.getElem_mem inside
  · apply List.ext_getElem
    · rw [List.length_map, List.length_range', ← length, Array.length_toList]
      rfl
    · intro place bound _
      rw [List.getElem_map, List.getElem_range']
      have inside : place < decisions.length := by simpa using bound
      obtain ⟨found, member⟩ := at_ place _ (List.getElem?_eq_getElem inside)
      have level := grounded.level_of_start member found
      omega

/-- The decisions of an implication graph are its entries without a reason, in trail order. Levels never
decrease along the trail, so a decision of a higher level stands later. -/
theorem Grounded.decisions_eq_filter {trail : Trail} {numVars : Nat} {Admitted : Clause → Prop}
    (grounded : trail.Grounded numVars Admitted) :
    trail.decisions = .ok (trail.entries.toList.filter Entry.isDecision) := by
  obtain ⟨decisions, read, members, levels⟩ := grounded.decisions_eq_ok
  have levelled : decisions.Pairwise fun left right => left.level < right.level := by
    rw [← List.pairwise_map, levels]
    exact List.pairwise_lt_range'
  have ordered : decisions.Pairwise fun left right => left.index < right.index := by
    refine levelled.imp_of_mem fun {left right} leftMember rightMember less => ?_
    have leftPresent := ((members left).1 leftMember).1
    have rightPresent := ((members right).1 rightMember).1
    by_contra late
    have back := grounded.coherent.level_mono rightPresent leftPresent (by omega)
    omega
  have same : decisions = trail.entries.toList.filter Entry.isDecision := by
    apply List.Pairwise.eq_of_mem_iff ordered (grounded.coherent.pairwise_index.filter _)
    intro entry
    rw [members, List.mem_filter, Array.mem_toList_iff, Entry.isDecision,
      Option.isNone_iff_eq_none]
  rw [read, same]

end Trail

end Clausal
