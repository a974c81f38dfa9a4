import Mathlib
import Clausal.Proofs.WatchLinks

/-!
# Watches miss nothing

A watched literal that is false and worked off has an answer: the other watch is true, at no higher
level. The levels are what lets watches survive an undoing untouched, since whatever takes the true
watch away takes the false one away too. Entries that still wait in the queue all belong to the
current level.

Working off the queue restores this for one entry after another. When the queue is empty every watched
clause is settled, which makes propagation complete. After a conflict the answers are only kept for the
levels below; the undoing that follows brings the trail back to those.
-/

namespace Clausal

/-- Each entry of interest that denies the watched literal is answered by the other literal, at no
higher level. -/
def Trail.Answers (trail : Trail) (Worked : Entry → Prop) (watched other : Literal) : Prop :=
  ∀ entry ∈ trail.entries, Worked entry → entry.literal = watched.negate →
    ∃ answer ∈ trail.entries, answer.literal = other ∧ answer.level ≤ entry.level

namespace Watcher

/-- Each watched literal answers for the other. -/
structure Guarded (watcher : Watcher) (trail : Trail) (Worked : Entry → Prop) : Prop where
  /-- A false first literal is answered by the second. -/
  first : trail.Answers Worked watcher.first watcher.second
  /-- A false second literal is answered by the first. -/
  second : trail.Answers Worked watcher.second watcher.first

/-- Fewer entries of interest need no more answers. -/
theorem Guarded.weaken {watcher : Watcher} {trail : Trail} {Worked Fewer : Entry → Prop}
    (guarded : watcher.Guarded trail Worked) (fewer : ∀ entry ∈ trail.entries, Fewer entry → Worked entry) :
    watcher.Guarded trail Fewer :=
  ⟨fun entry member kept => guarded.first entry member (fewer entry member kept),
    fun entry member kept => guarded.second entry member (fewer entry member kept)⟩

/-- Turning a watcher keeps it guarded. -/
theorem Guarded.facing {watcher : Watcher} {trail : Trail} {Worked : Entry → Prop}
    (guarded : watcher.Guarded trail Worked) (falsified : Literal) :
    (watcher.facing falsified).Guarded trail Worked := by
  unfold Watcher.facing
  split
  · exact ⟨guarded.second, guarded.first⟩
  · exact guarded

/-- New entries that are not of interest keep a watcher guarded. -/
theorem Guarded.grow {watcher : Watcher} {trail larger : Trail} {Worked : Entry → Prop}
    (guarded : watcher.Guarded trail Worked)
    (kept : ∀ entry ∈ trail.entries, entry ∈ larger.entries)
    (old : ∀ entry ∈ larger.entries, Worked entry → entry ∈ trail.entries) :
    watcher.Guarded larger Worked := by
  constructor
  · intro entry member worked denied
    obtain ⟨answer, present, rest⟩ := guarded.first entry (old entry member worked) worked denied
    exact ⟨answer, kept answer present, rest⟩
  · intro entry member worked denied
    obtain ⟨answer, present, rest⟩ := guarded.second entry (old entry member worked) worked denied
    exact ⟨answer, kept answer present, rest⟩

/-- A true literal beside one that was denied at the current level guards a watcher. -/
theorem guarded_of_true {watcher : Watcher} {trail : Trail} {origin : Entry}
    (coherent : trail.Coherent) (present : origin ∈ trail.entries)
    (denied : origin.literal = watcher.second.negate) (level : origin.level = trail.level)
    (held : trail.valueOf watcher.first = some true) (Worked : Entry → Prop) :
    watcher.Guarded trail Worked := by
  obtain ⟨answer, member, same⟩ := (coherent.valueOf_eq_true_iff _).1 held
  constructor
  · intro entry inside _ opposite
    have variable_ : entry.var = answer.var := by
      rw [Entry.var, Entry.var, opposite, same, Literal.var_negate]
    have equal := coherent.eq_of_var inside member variable_
    rw [equal, same] at opposite
    exact absurd opposite.symm (Literal.negate_ne_self _)
  · intro entry inside _ opposite
    have variable_ : entry.var = origin.var := by
      rw [Entry.var, Entry.var, opposite, denied]
    have equal := coherent.eq_of_var inside present variable_
    have bound := coherent.level_le member
    rw [equal, level]
    exact ⟨answer, member, same, bound⟩

end Watcher

namespace WatchLists

/-- Between two steps of a search every false watch that was worked off is answered. -/
structure Ready (lists : WatchLists) (trail : Trail) : Prop where
  /-- The queue starts on the trail or at its end. -/
  head_le : lists.queueHead ≤ trail.size
  /-- What waits in the queue belongs to the current level. -/
  current : ∀ entry ∈ trail.entries, lists.queueHead ≤ entry.index → entry.level = trail.level
  /-- What was worked off is answered. -/
  guarded : ∀ watcher ∈ lists.watchers, watcher.Guarded trail (·.index < lists.queueHead)

/-- After a conflict every false watch of a level below the current one is answered. -/
structure Held (lists : WatchLists) (trail : Trail) : Prop where
  /-- What waits in the queue belongs to the current level. -/
  current : ∀ entry ∈ trail.entries, lists.queueHead ≤ entry.index → entry.level = trail.level
  /-- What is below the current level is answered. -/
  guarded : ∀ watcher ∈ lists.watchers, watcher.Guarded trail (·.level < trail.level)

/-- A ready state answers for the levels below the current one. -/
theorem Ready.held {lists : WatchLists} {trail : Trail} (ready : lists.Ready trail) :
    lists.Held trail := by
  refine ⟨ready.current, fun watcher member => (ready.guarded watcher member).weaken ?_⟩
  intro entry present below
  by_contra late
  have level := ready.current entry present (by omega)
  omega

/-- In the middle of a scan: the entries before the one at work are answered by every watcher, and
that one too by the watchers that are no longer pending. -/
def Scan.Guarded (head : Nat) (state : Scan) (pending : List Nat) : Prop :=
  ∀ (position : Nat) (watcher : Watcher), state.lists.watchers[position]? = some watcher →
    watcher.Guarded state.trail fun entry =>
      entry.index < head ∨ (entry.index = head ∧ position ∉ pending)

/-- Replacing a pending watcher by a guarded one is progress. -/
theorem Scan.Guarded.store {head position : Nat} {state after : Scan} {rest pending : List Nat}
    {stored : Watcher} (guarded : state.Guarded head (position :: rest))
    (same : after.lists.watchers = state.lists.watchers.setIfInBounds position stored)
    (left : ∀ other, other ∈ pending ↔ other ∈ rest)
    (kept : ∀ entry ∈ state.trail.entries, entry ∈ after.trail.entries)
    (old : ∀ entry ∈ after.trail.entries, entry.index ≤ head → entry ∈ state.trail.entries)
    (answered : stored.Guarded after.trail (·.index ≤ head)) : after.Guarded head pending := by
  intro other watcher here
  rw [same] at here
  by_cases equal : position = other
  · subst equal
    have bound : position < state.lists.watchers.size := by
      have inside := (Array.getElem?_eq_some_iff.1 here).1
      simpa using inside
    rw [Array.getElem?_setIfInBounds_self_of_lt bound] at here
    cases here
    refine answered.weaken fun entry _ worked => ?_
    rcases worked with before | ⟨at_, _⟩ <;> omega
  · rw [Array.getElem?_setIfInBounds_ne equal] at here
    have different : other ≠ position := fun same => equal same.symm
    refine ((guarded other watcher here).weaken fun entry _ worked => ?_).grow kept
      fun entry member worked => old entry member ?_
    · simpa [left, different] using worked
    · rcases worked with before | ⟨at_, _⟩ <;> omega

/-- A watcher that found a new watch needs no answer: its first literal is not false, or it would have
been answered by the falsified one. -/
theorem guarded_moved {trail : Trail} {watcher moved : Watcher} {origin : Entry}
    {falsified : Literal} (coherent : trail.Coherent) (present : origin ∈ trail.entries)
    (denied : origin.literal = falsified.negate)
    (same : watcher.literals.Perm watcher.clause.literals) (watches : watcher.Watches falsified)
    (rewatched : (watcher.facing falsified).rewatch?
      (fun literal => trail.valueOf literal != some false) = some moved)
    (guarded : watcher.Guarded trail (·.index < origin.index)) :
    moved.Guarded trail (·.index ≤ origin.index) := by
  obtain ⟨_, sameFirst, _, usable⟩ := Watcher.rewatch?_eq_some rewatched
  constructor
  · intro entry member worked opposite
    rw [sameFirst] at opposite
    rcases Nat.lt_or_ge entry.index origin.index with before | after
    · have answers := (guarded.facing falsified).first entry member before opposite
      rw [Watcher.second_facing watches] at answers
      obtain ⟨answer, inside, held, _⟩ := answers
      have variable_ : answer.var = origin.var := by
        rw [Entry.var, Entry.var, held, denied, Literal.var_negate]
      have equal := coherent.eq_of_var inside present variable_
      rw [equal, denied] at held
      exact absurd held (Literal.negate_ne_self _)
    · have equal := coherent.eq_of_index member present (by omega)
      rw [equal, denied, Literal.negate_inj] at opposite
      exact absurd opposite.symm (Watcher.first_facing_ne same watches)
  · intro entry member _ opposite
    have false_ := (coherent.valueOf_eq_false_iff _).2 ⟨entry, member, opposite⟩
    simp [false_] at usable

/-- Working off the watchers of an entry answers it, or at least keeps what was answered before. -/
theorem scan_guarded {clauses : List Clause} {falsified : Literal} {state result : Scan}
    {pending : List Nat} {origin : Entry}
    (scanned : scan falsified state pending = .ok result) (coherent : state.trail.Coherent)
    (links : Links (state.view falsified pending) state.lists.watchers clauses)
    (present : origin ∈ state.trail.entries) (denied : origin.literal = falsified.negate)
    (level : origin.level = state.trail.level) (clean : state.conflict = none)
    (guarded : state.Guarded origin.index pending) :
    ∀ watcher ∈ result.lists.watchers, watcher.Guarded result.trail fun entry =>
      entry.index < origin.index ∨ (entry.index = origin.index ∧ result.conflict = none) := by
  fun_induction scan falsified state pending with
  | case1 state =>
    cases scanned
    intro watcher member
    obtain ⟨position, here⟩ := Array.mem_iff_getElem?.1 member
    refine (guarded position watcher here).weaken fun entry _ worked => ?_
    simpa [clean] using worked
  | case2 state position rest absent ih =>
    obtain ⟨watcher, here, _⟩ := Scan.exists_pending links
    rw [absent] at here
    simp at here
  | case3 state position rest watcher here turned seen ih =>
    have outcome := visit_spec state.trail falsified watcher
    rw [seen] at outcome
    obtain ⟨shape, held⟩ := outcome
    subst shape
    obtain ⟨watches, _⟩ := Scan.pending_watcher links here
    refine ih scanned coherent (Scan.links_stay links here rfl rfl) present level clean ?_
    refine guarded.store rfl (fun _ => Iff.rfl) (fun _ => id) (fun _ member _ => member) ?_
    refine Watcher.guarded_of_true coherent present ?_ level held _
    rw [Watcher.second_facing watches]
    exact denied
  | case4 state position rest watcher here moved seen ih =>
    have outcome := visit_spec state.trail falsified watcher
    rw [seen] at outcome
    obtain ⟨watches, _⟩ := Scan.pending_watcher links here
    have own := links.literals watcher (Array.mem_of_getElem? here)
    refine ih scanned coherent (Scan.links_move links here watches outcome.2 rfl rfl) present level
      clean ?_
    refine guarded.store rfl (fun _ => (lastToFront_perm rest).mem_iff) (fun _ => id)
      (fun _ member _ => member) ?_
    refine guarded_moved coherent present denied own watches outcome.2 ?_
    exact (guarded position watcher here).weaken fun entry _ before => .inl before
  | case5 state position rest watcher here turned seen =>
    have outcome := visit_spec state.trail falsified watcher
    rw [seen] at outcome
    obtain ⟨shape, _⟩ := outcome
    subst shape
    cases scanned
    intro other member
    simp only [reduceCtorEq, and_false, or_false]
    rcases Array.mem_or_eq_of_mem_setIfInBounds member with old | new
    · obtain ⟨place, found⟩ := Array.mem_iff_getElem?.1 old
      exact (guarded place other found).weaken fun entry _ before => .inl before
    · rw [new]
      exact ((guarded position watcher here).weaken fun entry _ before => .inl before).facing _
  | case6 state position rest watcher here turned seen fault refused => simp at scanned
  | case7 state position rest watcher here turned seen extended pushed ih =>
    have outcome := visit_spec state.trail falsified watcher
    rw [seen] at outcome
    obtain ⟨shape, first, _⟩ := outcome
    subst shape
    obtain ⟨watches, _⟩ := Scan.pending_watcher links here
    have free := (Literal.value_eq_none_iff ..).1 first
    rw [Trail.push_eq_extend free] at pushed
    cases pushed
    have inside := coherent.index_lt present
    have stays : origin ∈ (state.trail.extend (watcher.facing falsified).first
        (some (watcher.facing falsified).clause)).entries := Trail.mem_extend.2 (.inl present)
    refine ih scanned (coherent.extend free _) (Scan.links_stay links here rfl rfl) stays level rfl ?_
    refine guarded.store rfl (fun _ => Iff.rfl)
      (fun entry member => Trail.mem_extend.2 (.inl member)) (fun entry member worked => ?_) ?_
    · rcases Trail.mem_extend.1 member with old | new
      · exact old
      · rw [new] at worked
        simp only at worked
        omega
    · refine Watcher.guarded_of_true (coherent.extend free _) stays ?_ level ?_ _
      · rw [Watcher.second_facing watches]
        exact denied
      · rw [Trail.valueOf, Trail.value_extend]
        exact Valuation.value_assign_self ..

/-- At the start of a scan only the watchers of the falsified literal have to look at the entry at
work. -/
theorem guarded_start {clauses : List Clause} {lists : WatchLists} {trail : Trail} {origin : Entry}
    (coherent : trail.Coherent) (linked : lists.Linked clauses) (ready : lists.Ready trail)
    (present : origin ∈ trail.entries) (next : origin.index = lists.queueHead) :
    Scan.Guarded origin.index
      ⟨{ lists with queueHead := lists.queueHead + 1 }, trail, 0, [], none⟩
      (lists.watching origin.literal.negate) := by
  intro position watcher here
  have before := ready.guarded watcher (Array.mem_of_getElem? here)
  have unwatched : position ∉ lists.watching origin.literal.negate →
      ¬watcher.Watches origin.literal.negate := by
    intro absent watches
    exact absent ((linked.links.listed _ _).2 ⟨watcher, here, watches⟩)
  constructor
  · intro entry member worked opposite
    rcases worked with early | ⟨same, absent⟩
    · exact before.first entry member (by omega) opposite
    · have equal := coherent.eq_of_index member present same
      rw [equal] at opposite
      refine absurd (.inl ?_) (unwatched absent)
      rw [opposite, Literal.negate_negate]
  · intro entry member worked opposite
    rcases worked with early | ⟨same, absent⟩
    · exact before.second entry member (by omega) opposite
    · have equal := coherent.eq_of_index member present same
      rw [equal] at opposite
      refine absurd (.inr ?_) (unwatched absent)
      rw [opposite, Literal.negate_negate]

/-- What waits after forcing belongs to the current level if what waited before did. -/
theorem current_of_forces {clauses : List Clause} {trail final : Trail} {head later : Nat}
    (forces : trail.Forces clauses final) (further : head ≤ later)
    (current : ∀ entry ∈ trail.entries, head ≤ entry.index → entry.level = trail.level) :
    ∀ entry ∈ final.entries, later ≤ entry.index → entry.level = final.level := by
  intro entry member late
  rw [forces.level_eq]
  rcases forces.new_entry entry member with old | ⟨level, _⟩
  · exact current entry old (by omega)
  · exact level

/-- Working off an entry leaves the watches ready, or holds what is below the current level when a
clause is blamed. -/
theorem workOff_guarded {clauses : List Clause} {lists : WatchLists} {trail : Trail} {state : Scan}
    {origin : Entry} (coherent : trail.Coherent) (linked : lists.Linked clauses)
    (ready : lists.Ready trail) (present : origin ∈ trail.entries)
    (next : origin.index = lists.queueHead)
    (worked : workOff lists trail origin.literal = .ok state) :
    (state.conflict = none → state.lists.Ready state.trail) ∧
      ∀ watcher ∈ state.lists.watchers, watcher.Guarded state.trail (·.level < state.trail.level) := by
  obtain ⟨_, sound⟩ := workOff_sound coherent linked present worked
  have forces := sound.forces
  have current := current_of_forces forces (Nat.le_refl _) ready.current
  simp only [workOff] at worked
  split at worked
  · simp at worked
  · rename_i inner scanned
    have head := scan_queueHead scanned
    have answered := scan_guarded scanned coherent (linked.view trail origin.literal.negate) present
      (Literal.negate_negate _).symm (ready.current origin present next.ge) rfl
      (guarded_start coherent linked ready present next)
    cases worked
    constructor
    · intro clean
      have inside := coherent.index_lt present
      refine ⟨?_, current_of_forces forces ?_ ready.current, fun watcher member => ?_⟩
      · have grown := sound.counted
        simp only at grown head ⊢
        omega
      · simp only at head ⊢
        omega
      · refine (answered watcher member).weaken fun entry _ before => ?_
        simp only at before head clean
        simp only [clean, and_true]
        omega
    · intro watcher member
      refine (answered watcher member).weaken fun entry present below => .inl ?_
      by_contra late
      have level := current entry present (by omega)
      simp only at below level
      omega

/-- Working off the whole queue from a ready state leaves an empty queue in a ready state, or holds
what is below the current level when a clause is blamed. -/
theorem drain_guarded {clauses : List Clause} {lists : WatchLists} {trail : Trail}
    {result : Drained} (coherent : trail.Coherent) (linked : lists.Linked clauses)
    (ready : lists.Ready trail) (drained : drain lists trail = .ok result) :
    (result.propagated.conflict = none → result.lists.Ready result.propagated.trail ∧
      result.lists.queueHead = result.propagated.trail.size) ∧
      (result.propagated.conflict ≠ none → result.lists.Held result.propagated.trail) := by
  fun_induction drain lists trail generalizing result with
  | case1 lists trail waiting fault failed => simp at drained
  | case2 lists trail waiting state worked clause blamed =>
    cases drained
    have inside := Array.getElem_mem waiting
    have placed := coherent.placed _ _ (Array.getElem?_eq_getElem waiting)
    obtain ⟨_, answered⟩ := workOff_guarded coherent linked ready inside placed worked
    obtain ⟨_, sound⟩ := workOff_sound coherent linked inside worked
    refine ⟨fun clean => by simp at clean, fun _ => ⟨fun entry member late => ?_, answered⟩⟩
    have bound := (sound.forces.coherent coherent).index_lt member
    simp only at bound late
    omega
  | case3 lists trail waiting state worked clean ih =>
    have inside := Array.getElem_mem waiting
    have placed := coherent.placed _ _ (Array.getElem?_eq_getElem waiting)
    obtain ⟨still, _⟩ := workOff_guarded coherent linked ready inside placed worked
    obtain ⟨ordered, sound⟩ := workOff_sound coherent linked inside worked
    obtain ⟨after, finished, _⟩ := drain_eq_ok (sound.forces.coherent coherent) ordered
    rw [finished] at drained
    cases drained
    have rest := ih (sound.forces.coherent coherent) ordered (still clean) finished
    exact rest
  | case4 lists trail idle =>
    cases drained
    refine ⟨fun _ => ⟨ready, ?_⟩, fun blamed => by simp at blamed⟩
    have bound := ready.head_le
    simp only [Trail.size] at bound ⊢
    omega

/-- A guarded watcher whose literals are all worked off belongs to a settled clause. -/
theorem settled_of_guarded {trail : Trail} {watcher : Watcher} (coherent : trail.Coherent)
    (same : watcher.literals.Perm watcher.clause.literals)
    (guarded : watcher.Guarded trail (·.index < trail.size)) :
    watcher.clause.Settled trail.value := by
  have first : watcher.first ∈ watcher.clause.literals := same.mem_iff.1 (by simp [Watcher.literals])
  have second : watcher.second ∈ watcher.clause.literals :=
    same.mem_iff.1 (by simp [Watcher.literals])
  have answered : ∀ watched other, trail.Answers (·.index < trail.size) watched other →
      trail.valueOf watched = some false → trail.valueOf other = some true := by
    intro watched other answers denied
    obtain ⟨entry, member, opposite⟩ := (coherent.valueOf_eq_false_iff _).1 denied
    obtain ⟨answer, present, held, _⟩ := answers entry member (coherent.index_lt member) opposite
    exact (coherent.valueOf_eq_true_iff _).2 ⟨answer, present, held⟩
  have distinct := same.nodup_iff.2 watcher.clause.distinct
  rw [Clause.settled_iff]
  cases one : trail.valueOf watcher.first with
  | some truth =>
    cases truth with
    | true => exact .inl ⟨_, first, one⟩
    | false => exact .inl ⟨_, second, answered _ _ guarded.first one⟩
  | none =>
    cases two : trail.valueOf watcher.second with
    | some truth =>
      cases truth with
      | true => exact .inl ⟨_, second, two⟩
      | false => exact .inl ⟨_, first, answered _ _ guarded.second two⟩
    | none =>
      refine .inr ⟨_, first, _, second, ?_, (Literal.value_eq_none_iff ..).1 one,
        (Literal.value_eq_none_iff ..).1 two⟩
      simp only [Watcher.literals, List.nodup_cons, List.mem_cons, not_or] at distinct
      exact distinct.1.1

/-- New entries at the current level keep the watches ready. -/
theorem Ready.grow {lists : WatchLists} {trail larger : Trail} (ready : lists.Ready trail)
    (kept : ∀ entry ∈ trail.entries, entry ∈ larger.entries)
    (added : ∀ entry ∈ larger.entries, entry ∈ trail.entries ∨
      (entry.level = trail.level ∧ trail.size ≤ entry.index))
    (level : larger.level = trail.level) (longer : trail.size ≤ larger.size) :
    lists.Ready larger := by
  have bound := ready.head_le
  refine ⟨by omega, fun entry member late => ?_, fun watcher member => ?_⟩
  · rw [level]
    rcases added entry member with old | ⟨same, _⟩
    · exact ready.current entry old late
    · exact same
  · refine (ready.guarded watcher member).grow kept fun entry present worked => ?_
    rcases added entry present with old | ⟨_, past⟩
    · exact old
    · omega

/-- Pushing a literal at the current level keeps the watches ready. -/
theorem Ready.extend {lists : WatchLists} {trail : Trail} (ready : lists.Ready trail)
    (literal : Literal) (reason : Option Clause) : lists.Ready (trail.extend literal reason) := by
  refine ready.grow (fun entry member => Trail.mem_extend.2 (.inl member))
    (fun entry member => ?_) rfl ?_
  · rcases Trail.mem_extend.1 member with old | new
    · exact .inl old
    · refine .inr ?_
      rw [new]
      exact ⟨rfl, le_rfl⟩
  · simp [Trail.size, Trail.extend]

/-- A decision after the queue was worked off leaves the watches ready. -/
theorem Ready.decide {lists : WatchLists} {trail : Trail} (coherent : trail.Coherent)
    (ready : lists.Ready trail) (drained : lists.queueHead = trail.size) (literal : Literal) :
    lists.Ready (trail.newLevel.extend literal none) := by
  have kept : ∀ entry ∈ trail.entries, entry ∈ (trail.newLevel.extend literal none).entries :=
    fun entry member => Trail.mem_extend.2 (.inl member)
  refine ⟨?_, fun entry member late => ?_, fun watcher member => ?_⟩
  · rw [drained]
    simp [Trail.size, Trail.extend, Trail.newLevel]
  · rcases Trail.mem_extend.1 member with old | new
    · have inside := coherent.index_lt old
      omega
    · rw [new]
      rfl
  · refine (ready.guarded watcher member).grow kept fun entry present worked => ?_
    rcases Trail.mem_extend.1 present with old | new
    · exact old
    · rw [new] at worked
      simp only [drained] at worked
      exact absurd worked (Nat.lt_irrefl _)

/-- Going back below the level of a conflict leaves the watches ready. -/
theorem Held.backtracked {lists : WatchLists} {trail : Trail} (coherent : trail.Coherent)
    (held : lists.Held trail) {level : Nat} (below : level < trail.level) :
    (lists.backtracked (trail.undoTo level).1).Ready (trail.undoTo level).1 := by
  have worked : ∀ entry ∈ (trail.undoTo level).1.entries, entry.index < lists.queueHead := by
    intro entry member
    obtain ⟨present, low⟩ := coherent.mem_undoTo.1 member
    by_contra late
    have current := held.current entry present (by omega)
    omega
  have survives : ∀ watched other, trail.Answers (·.level < trail.level) watched other →
      (trail.undoTo level).1.Answers
        (·.index < (lists.backtracked (trail.undoTo level).1).queueHead) watched other := by
    intro watched other answers entry member _ opposite
    obtain ⟨present, low⟩ := coherent.mem_undoTo.1 member
    obtain ⟨answer, inside, same, level⟩ := answers entry present (by omega) opposite
    exact ⟨answer, coherent.mem_undoTo.2 ⟨inside, by omega⟩, same, level⟩
  refine ⟨Nat.min_le_right _ _, fun entry member late => ?_, fun watcher member => ?_⟩
  · have inside := (coherent.undoTo level).index_lt member
    have before := worked entry member
    simp only [WatchLists.backtracked] at late
    omega
  · have guarded := held.guarded watcher member
    exact ⟨survives _ _ guarded.first, survives _ _ guarded.second⟩

/-- Ranks are compared transitively. -/
theorem notAfter_trans (trail : Trail) (first second third : Literal)
    (left : notAfter trail first second = true) (right : notAfter trail second third = true) :
    notAfter trail first third = true := by
  simp only [notAfter, Bool.or_eq_true, Bool.and_eq_true, decide_eq_true_eq, beq_iff_eq] at *
  omega

/-- Any two ranks can be compared. -/
theorem notAfter_total (trail : Trail) (first second : Literal) :
    (notAfter trail first second || notAfter trail second first) = true := by
  simp only [notAfter, Bool.or_eq_true, Bool.and_eq_true, decide_eq_true_eq, beq_iff_eq]
  omega

/-- A literal without a value comes before those that have one. -/
theorem notAfter_of_free {trail : Trail} {literal asserting : Literal}
    (free : trail.value asserting.var = none) (before : notAfter trail literal asserting = true) :
    trail.value literal.var = none := by
  have absent : trail.entryOf? asserting.var = none := by simpa [Trail.value] using free
  cases held : trail.entryOf? literal.var with
  | none => simp [Trail.value, held]
  | some entry => simp [notAfter, rank, absent, held] at before

/-- Among literals with a value the deeper one comes first. -/
theorem level_le_of_notAfter {trail : Trail} (coherent : trail.Coherent) {left right : Literal}
    {first second : Entry} (leftMember : first ∈ trail.entries) (leftVar : first.var = left.var)
    (rightMember : second ∈ trail.entries) (rightVar : second.var = right.var)
    (before : notAfter trail left right = true) : second.level ≤ first.level := by
  have one := coherent.entryOf?_var leftMember
  have two := coherent.entryOf?_var rightMember
  rw [leftVar] at one
  rw [rightVar] at two
  simpa [notAfter, rank, one, two] using before

/-- Attaching a clause that is unit under the trail, and pushing its literal, leaves the watches
ready: the literal that is forced and a deepest false one are watched. -/
theorem Ready.attach {lists : WatchLists} {trail : Trail} {clause : Clause} {asserting : Literal}
    (coherent : trail.Coherent) (ready : lists.Ready trail)
    (forced : clause.status trail.value = .unit asserting)
    (peak : 0 < trail.level → ∃ other ∈ clause.literals, other ≠ asserting ∧
      ∃ cause ∈ trail.entries, cause.literal = other.negate ∧ cause.level = trail.level) :
    (lists.attach clause trail).Ready (trail.extend asserting (some clause)) := by
  obtain ⟨member, free, others⟩ := (Clause.status_eq_unit_iff ..).1 forced
  have extended := ready.extend asserting (some clause)
  have same := List.mergeSort_perm clause.literals (notAfter trail)
  have sorted := List.pairwise_mergeSort (notAfter_trans trail) (notAfter_total trail)
    clause.literals
  unfold WatchLists.attach
  match shape : clause.literals.mergeSort (notAfter trail) with
  | [] | [_] => exact ⟨extended.head_le, extended.current, extended.guarded⟩
  | first :: second :: rest =>
    rw [shape] at same sorted
    simp only [List.pairwise_cons, List.mem_cons] at sorted
    obtain ⟨lowest, next, _⟩ := sorted
    have distinct := same.nodup_iff.2 clause.distinct
    simp only [List.nodup_cons, List.mem_cons, not_or] at distinct
    have inside : ∀ literal, literal ∈ clause.literals ↔
        literal = first ∨ literal = second ∨ literal ∈ rest := by
      intro literal
      rw [← same.mem_iff]
      simp
    have leading : first = asserting := by
      by_contra apart
      have before : notAfter trail first asserting = true := by
        rcases (inside asserting).1 member with equal | later
        · exact absurd equal.symm apart
        · exact lowest asserting later
      have denied := others first ((inside first).2 (.inl rfl)) apart
      have unassigned := notAfter_of_free free before
      rw [Literal.value_eq_false_iff, unassigned] at denied
      simp at denied
    have other : second ≠ asserting := fun equal => distinct.1.1 (leading.trans equal.symm)
    obtain ⟨cause, present, denied⟩ := (coherent.valueOf_eq_false_iff second).1
      (others second ((inside second).2 (.inr (.inl rfl))) other)
    have named : cause.var = second.var := Entry.var_of_denies denied
    have deepest : cause.level = trail.level := by
      have bound := coherent.level_le present
      by_cases above : 0 < trail.level
      · obtain ⟨highest, here, apart, top, topPresent, topDenied, topLevel⟩ := peak above
        have topNamed : top.var = highest.var := Entry.var_of_denies topDenied
        rcases (inside highest).1 here with equal | equal | later
        · exact absurd (equal.trans leading) apart
        · have equalEntry := coherent.eq_of_var present topPresent (by rw [named, topNamed, equal])
          rw [equalEntry, topLevel]
        · have order := level_le_of_notAfter coherent present named topPresent topNamed
            (next highest later)
          omega
      · omega
    refine ⟨extended.head_le, extended.current, fun watcher listed => ?_⟩
    rcases Array.mem_push.1 listed with old | new
    · exact extended.guarded watcher old
    · rw [new]
      refine Watcher.guarded_of_true (coherent.extend free _)
        (Trail.mem_extend.2 (.inl present)) denied deepest ?_ _
      rw [leading, Trail.valueOf, Trail.value_extend]
      exact Valuation.value_assign_self ..

/-- Looking after one more clause leaves the queue alone. -/
theorem queueHead_watch (lists : WatchLists) (clause : Clause) (literals : List Literal) :
    (lists.watch clause literals).queueHead = lists.queueHead := by
  unfold watch
  split <;> rfl

/-- A fresh set of watches is ready for the trail without entries. -/
theorem ready_ofClauses (clauses : List Clause) : (ofClauses clauses).Ready .empty := by
  have head : ∀ (rest : List Clause) (lists : WatchLists), lists.queueHead = 0 →
      (rest.foldl (fun lists clause => lists.watch clause clause.literals) lists).queueHead = 0 := by
    intro rest
    induction rest with
    | nil => exact fun lists zero => zero
    | cons clause rest ih =>
      intro lists zero
      exact ih _ ((queueHead_watch ..).trans zero)
  have zero : (ofClauses clauses).queueHead = 0 := head clauses empty rfl
  refine ⟨by omega, fun entry member => ?_, fun watcher _ => ⟨fun entry member => ?_,
    fun entry member => ?_⟩⟩ <;> simp [Trail.empty] at member

/-- From a ready state propagation by watches either blames a clause and holds what is below the
current level, or leaves an empty queue, ready watches and every clause settled. -/
theorem propagate_complete {clauses : List Clause} {lists : WatchLists} {trail : Trail}
    {result : Drained} (coherent : trail.Coherent) (linked : lists.Linked clauses)
    (ready : lists.Ready trail) (propagated : propagate lists trail = .ok result) :
    (result.propagated.conflict = none → result.lists.Ready result.propagated.trail ∧
      result.lists.queueHead = result.propagated.trail.size ∧
      ∀ clause ∈ clauses, clause.Settled result.propagated.trail.value) ∧
      (result.propagated.conflict ≠ none → result.lists.Held result.propagated.trail) := by
  obtain ⟨checked, looked, sound, settled⟩ :=
    checkShort_eq_ok (fun clause member => (linked.brief clause member).2) trail
  have forces := sound.forces
  have still : lists.Ready checked.trail := by
    have counted := sound.counted
    refine ready.grow forces.mem (fun entry member => ?_) forces.level_eq (by omega)
    rcases forces.new_entry entry member with old | ⟨level, past, _⟩
    · exact .inl old
    · exact .inr ⟨level, past⟩
  by_cases blamed : checked.conflict.isSome = true
  · simp only [propagate, looked, blamed, if_true] at propagated
    cases propagated
    refine ⟨fun clean => ?_, fun _ => still.held⟩
    simp only at clean
    simp [clean] at blamed
  · obtain ⟨after, drained, ordered, rest⟩ := drain_eq_ok (forces.coherent coherent) linked
    simp only [propagate, looked, if_neg blamed, drained, Except.map] at propagated
    cases propagated
    obtain ⟨quiet, loud⟩ := drain_guarded (forces.coherent coherent) linked still drained
    refine ⟨fun clean => ?_, loud⟩
    obtain ⟨finished, empty⟩ := quiet clean
    refine ⟨finished, empty, fun clause listed => ?_⟩
    have final := rest.forces.coherent (forces.coherent coherent)
    by_cases long : 2 ≤ clause.length
    · obtain ⟨watcher, member, own⟩ := ordered.links.exists_watcher listed long
      rw [← own]
      refine settled_of_guarded final (ordered.links.literals watcher member) ?_
      simp only [← empty]
      exact finished.guarded watcher member
    · have short : clause ∈ lists.short := by
        rw [linked.short]
        exact List.mem_filter.2 ⟨listed, by simpa using long⟩
      have quietly : checked.conflict = none := by simpa using blamed
      obtain ⟨literal, member, held⟩ := settled quietly clause short
      exact (Clause.settled_iff ..).2 (.inl ⟨literal, member, rest.forces.within.value held⟩)

end WatchLists

end Clausal
