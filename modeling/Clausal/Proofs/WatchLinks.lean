import Mathlib
import Clausal.Propagation.Watched
import Clausal.Proofs.NaivePropagation

/-!
# No watch is lost

Each clause of at least two literals has its watcher, whose literals are those of the clause. Each
watcher is listed once under its first literal, once under its second, and under no other. While the
watchers of a falsified literal are worked off, its own list is split into those that stay and those
still pending; seen that way the lists are in order at every moment.

This alone makes propagation sound: a literal is forced only when every other literal of its clause
is false, and a clause is blamed only when it is falsified. Nothing is asked of the trail but that it
is coherent.
-/

namespace Clausal

namespace Watcher

/-- The literal is one of the two watched ones. -/
def Watches (watcher : Watcher) (literal : Literal) : Prop :=
  literal = watcher.first ∨ literal = watcher.second

/-- Turning a watcher keeps what it watches. -/
theorem watches_facing (watcher : Watcher) (falsified literal : Literal) :
    (watcher.facing falsified).Watches literal ↔ watcher.Watches literal := by
  unfold facing Watches
  split
  · exact or_comm
  · rfl

/-- Turning a watcher keeps its clause. -/
@[simp]
theorem clause_facing (watcher : Watcher) (falsified : Literal) :
    (watcher.facing falsified).clause = watcher.clause := by
  unfold facing
  split <;> rfl

/-- A watched literal is turned to the second place. -/
theorem second_facing {watcher : Watcher} {falsified : Literal}
    (watches : watcher.Watches falsified) : (watcher.facing falsified).second = falsified := by
  unfold facing
  split
  · rename_i same
    exact same
  · rename_i different
    rcases watches with first | second
    · exact absurd first.symm different
    · exact second.symm

/-- An exchange takes out a usable literal. -/
theorem exchange_eq_some {usable : Literal → Bool} {incoming : Literal} {given : List Literal}
    {found : Literal × List Literal} (exchanged : exchange usable incoming given = some found) :
    found.1 ∈ given ∧ usable found.1 = true := by
  induction given generalizing found with
  | nil => simp [exchange] at exchanged
  | cons head rest ih =>
    rw [exchange] at exchanged
    split at exchanged
    · rename_i fit
      have shape := Option.some.inj exchanged
      subst shape
      exact ⟨List.mem_cons_self, fit⟩
    · obtain ⟨inner, reached, shape⟩ := Option.map_eq_some_iff.1 exchanged
      subst shape
      obtain ⟨member, fit⟩ := ih reached
      exact ⟨List.mem_cons_of_mem _ member, fit⟩

/-- An exchange fails only for want of a usable literal. -/
theorem exchange_eq_none {usable : Literal → Bool} {incoming : Literal} {given : List Literal}
    (failed : exchange usable incoming given = none) :
    ∀ literal ∈ given, usable literal = false := by
  induction given with
  | nil => simp
  | cons head rest ih =>
    rw [exchange] at failed
    split at failed
    · simp at failed
    · rename_i unfit
      refine List.forall_mem_cons.2 ⟨by simpa using unfit, ih ?_⟩
      exact Option.map_eq_none_iff.1 failed

/-- A new watch is a usable literal in place of the second; the first stays. -/
theorem rewatch?_eq_some {watcher moved : Watcher} {usable : Literal → Bool}
    (rewatched : watcher.rewatch? usable = some moved) :
    moved.clause = watcher.clause ∧ moved.first = watcher.first ∧
      moved.second ∈ watcher.others ∧ usable moved.second = true := by
  obtain ⟨found, exchanged, shape⟩ := Option.map_eq_some_iff.1 rewatched
  subst shape
  exact ⟨rfl, rfl, exchange_eq_some exchanged⟩

/-- Without a new watch no literal outside the watches is usable. -/
theorem rewatch?_eq_none {watcher : Watcher} {usable : Literal → Bool}
    (failed : watcher.rewatch? usable = none) :
    ∀ literal ∈ watcher.others, usable literal = false :=
  exchange_eq_none (Option.map_eq_none_iff.1 failed)

/-- Beside a watched literal a watcher watches the first one after turning. -/
theorem watches_iff {watcher : Watcher} {falsified : Literal} (watches : watcher.Watches falsified)
    (literal : Literal) :
    watcher.Watches literal ↔ literal = (watcher.facing falsified).first ∨ literal = falsified := by
  rw [← watcher.watches_facing falsified, Watches, second_facing watches]

/-- A turned watcher of a clause has no literal twice. -/
theorem nodup_facing {watcher : Watcher}
    (same : watcher.literals.Perm watcher.clause.literals) (falsified : Literal) :
    (watcher.facing falsified).literals.Nodup :=
  ((watcher.literals_facing_perm falsified).trans same).nodup_iff.2 watcher.clause.distinct

/-- The other watch differs from the watched literal that is turned away. -/
theorem first_facing_ne {watcher : Watcher} {falsified : Literal}
    (same : watcher.literals.Perm watcher.clause.literals) (watches : watcher.Watches falsified) :
    (watcher.facing falsified).first ≠ falsified := by
  have distinct := nodup_facing same falsified
  simp only [literals, second_facing watches, List.nodup_cons, List.mem_cons, not_or] at distinct
  exact distinct.1.1

/-- A new watch was not watched before. -/
theorem not_watches_new {watcher moved : Watcher} {falsified : Literal} {usable : Literal → Bool}
    (same : watcher.literals.Perm watcher.clause.literals)
    (rewatched : (watcher.facing falsified).rewatch? usable = some moved) :
    ¬watcher.Watches moved.second := by
  obtain ⟨_, _, outside, _⟩ := rewatch?_eq_some rewatched
  have distinct := nodup_facing same falsified
  simp only [literals, List.nodup_cons, List.mem_cons, not_or] at distinct
  rw [← watcher.watches_facing falsified]
  rintro (first | second)
  · exact distinct.1.2 (first ▸ outside)
  · exact distinct.2.1 (second ▸ outside)

end Watcher

namespace WatchLists

/-- The watchers and the lists that find them belong together and look after the clauses. -/
structure Links (watching : Literal → List Nat) (watchers : Array Watcher)
    (clauses : List Clause) : Prop where
  /-- Each clause of at least two literals has its watcher. -/
  covered : watchers.toList.map Watcher.clause = clauses.filter (2 ≤ ·.length)
  /-- A watcher has the literals of its clause. -/
  literals : ∀ watcher ∈ watchers, watcher.literals.Perm watcher.clause.literals
  /-- No list names a watcher twice. -/
  once : ∀ literal, (watching literal).Nodup
  /-- A list names exactly the watchers of its literal. -/
  listed : ∀ literal position, position ∈ watching literal ↔
    ∃ watcher, watchers[position]? = some watcher ∧ watcher.Watches literal

/-- The watch lists look after the clauses. -/
structure Linked (lists : WatchLists) (clauses : List Clause) : Prop where
  /-- The long clauses are watched. -/
  links : Links lists.watching lists.watchers clauses
  /-- The short clauses are kept apart. -/
  short : lists.short = clauses.filter (·.length < 2)

namespace Links

variable {watching : Literal → List Nat} {watchers : Array Watcher} {clauses : List Clause}

/-- The order within a list does not matter. -/
theorem of_perm {other : Literal → List Nat} (links : Links watching watchers clauses)
    (same : ∀ literal, (other literal).Perm (watching literal)) : Links other watchers clauses := by
  refine ⟨links.covered, links.literals, fun literal => ?_, fun literal position => ?_⟩
  · exact (same literal).nodup_iff.2 (links.once literal)
  · rw [(same literal).mem_iff, links.listed]

/-- The clause of a watcher is one of the clauses. -/
theorem clause_mem (links : Links watching watchers clauses) {watcher : Watcher}
    (member : watcher ∈ watchers) : watcher.clause ∈ clauses := by
  have inside : watcher.clause ∈ watchers.toList.map Watcher.clause :=
    List.mem_map.2 ⟨watcher, by simpa using member, rfl⟩
  rw [links.covered] at inside
  exact (List.mem_filter.1 inside).1

/-- Every clause of at least two literals has a watcher. -/
theorem exists_watcher (links : Links watching watchers clauses) {clause : Clause}
    (listed : clause ∈ clauses) (long : 2 ≤ clause.length) :
    ∃ watcher ∈ watchers, watcher.clause = clause := by
  have inside : clause ∈ clauses.filter (2 ≤ ·.length) :=
    List.mem_filter.2 ⟨listed, by simpa using long⟩
  rw [← links.covered] at inside
  obtain ⟨watcher, member, shape⟩ := List.mem_map.1 inside
  exact ⟨watcher, by simpa using member, shape⟩

/-- Replacing a watcher by one of the same clause keeps the clauses covered. -/
theorem covered_set (links : Links watching watchers clauses) {position : Nat}
    {watcher stored : Watcher} (here : watchers[position]? = some watcher)
    (same : stored.clause = watcher.clause) :
    (watchers.setIfInBounds position stored).toList.map Watcher.clause =
      clauses.filter (2 ≤ ·.length) := by
  rw [← links.covered, Array.toList_setIfInBounds, List.map_set, same]
  obtain ⟨bound, shape⟩ := Array.getElem?_eq_some_iff.1 here
  have inside : position < (watchers.toList.map Watcher.clause).length := by simpa using bound
  have current : (watchers.toList.map Watcher.clause)[position] = watcher.clause := by
    simp [shape]
  rw [← current, List.set_getElem_self]

/-- Replacing a watcher by one with the same literals keeps the literals. -/
theorem literals_set (links : Links watching watchers clauses) {position : Nat}
    {watcher stored : Watcher} (here : watchers[position]? = some watcher)
    (same : stored.clause = watcher.clause) (perm : stored.literals.Perm watcher.literals) :
    ∀ other ∈ watchers.setIfInBounds position stored,
      other.literals.Perm other.clause.literals := by
  intro other member
  rcases Array.mem_or_eq_of_mem_setIfInBounds member with old | new
  · exact links.literals other old
  · rw [new, same]
    exact perm.trans (links.literals watcher (Array.mem_of_getElem? here))

/-- Turning a watcher keeps the lists in order. -/
theorem turn (links : Links watching watchers clauses) {position : Nat} {watcher : Watcher}
    (here : watchers[position]? = some watcher) (falsified : Literal) :
    Links watching (watchers.setIfInBounds position (watcher.facing falsified)) clauses := by
  refine ⟨links.covered_set here (watcher.clause_facing falsified),
    links.literals_set here (watcher.clause_facing falsified)
      (watcher.literals_facing_perm falsified), links.once, fun literal other => ?_⟩
  rw [links.listed]
  by_cases same : position = other
  · subst same
    have bound := (Array.getElem?_eq_some_iff.1 here).1
    rw [Array.getElem?_setIfInBounds_self_of_lt bound, here]
    simp [watcher.watches_facing]
  · rw [Array.getElem?_setIfInBounds_ne same]

/-- Moving a watcher from the falsified literal to another keeps the lists in order. -/
theorem move (links : Links watching watchers clauses) {position : Nat} {watcher moved : Watcher}
    {falsified : Literal} {usable : Literal → Bool} {staying : List Nat}
    (here : watchers[position]? = some watcher) (watches : watcher.Watches falsified)
    (rewatched : (watcher.facing falsified).rewatch? usable = some moved)
    (split : (position :: staying).Perm (watching falsified)) :
    Links (fun literal => if literal = falsified then staying
        else if literal = moved.second then watching literal ++ [position] else watching literal)
      (watchers.setIfInBounds position moved) clauses := by
  obtain ⟨sameClause, sameFirst, _, _⟩ := Watcher.rewatch?_eq_some rewatched
  have kept := sameClause.trans (watcher.clause_facing falsified)
  have perm := (Watcher.literals_rewatch?_perm rewatched).trans
    (watcher.literals_facing_perm falsified)
  have own := links.literals watcher (Array.mem_of_getElem? here)
  have unwatched := Watcher.not_watches_new own rewatched
  have fresh : position ∉ watching moved.second := by
    rw [links.listed, here]
    simpa using unwatched
  have bound := (Array.getElem?_eq_some_iff.1 here).1
  have whole := List.nodup_cons.1 (split.nodup_iff.2 (links.once falsified))
  refine ⟨links.covered_set here kept, links.literals_set here kept perm,
    fun literal => ?_, fun literal other => ?_⟩
  · split_ifs with denied chosen
    · exact whole.2
    · subst chosen
      rw [List.nodup_append]
      refine ⟨links.once _, List.nodup_singleton _, fun left member right single same => ?_⟩
      rw [List.mem_singleton.1 single] at same
      exact fresh (same ▸ member)
    · exact links.once literal
  · by_cases same : position = other
    · subst same
      rw [Array.getElem?_setIfInBounds_self_of_lt bound]
      simp only [Option.some.injEq, exists_eq_left', Watcher.Watches, sameFirst]
      split_ifs with denied chosen
      · subst denied
        have apart : literal ≠ moved.second := fun equal => unwatched (equal ▸ watches)
        have other := Watcher.first_facing_ne own watches
        simp only [whole.1, false_iff, not_or]
        exact ⟨Ne.symm other, apart⟩
      · simp [chosen]
      · rw [links.listed, here]
        simp only [Option.some.injEq, exists_eq_left', chosen, or_false]
        rw [Watcher.watches_iff watches]
        simp only [denied, or_false]
    · have different : other ≠ position := fun equal => same equal.symm
      rw [Array.getElem?_setIfInBounds_ne same, ← links.listed]
      split_ifs with denied chosen
      · subst denied
        rw [← split.mem_iff, List.mem_cons]
        simp [different]
      · simp [different]
      · rfl

end Links

/-- What each outcome of a visit says about the trail. -/
theorem visit_spec (trail : Trail) (falsified : Literal) (watcher : Watcher) :
    match visit trail falsified watcher with
    | .kept result =>
      result = watcher.facing falsified ∧ trail.valueOf result.first = some true
    | .moved result =>
      trail.valueOf (watcher.facing falsified).first ≠ some true ∧
        (watcher.facing falsified).rewatch? (fun literal => trail.valueOf literal != some false) =
          some result
    | .falsified result =>
      result = watcher.facing falsified ∧ trail.valueOf result.first = some false ∧
        ∀ literal ∈ result.others, trail.valueOf literal = some false
    | .forces result =>
      result = watcher.facing falsified ∧ trail.valueOf result.first = none ∧
        ∀ literal ∈ result.others, trail.valueOf literal = some false := by
  unfold visit
  by_cases satisfied : trail.valueOf (watcher.facing falsified).first = some true
  · simp [satisfied]
  · simp only [satisfied, if_false]
    cases choice : (watcher.facing falsified).rewatch?
        fun literal => trail.valueOf literal != some false with
    | some moved => exact ⟨satisfied, rfl⟩
    | none =>
      have spent : ∀ literal ∈ (watcher.facing falsified).others,
          trail.valueOf literal = some false := by
        intro literal member
        simpa using Watcher.rewatch?_eq_none choice literal member
      by_cases denied : trail.valueOf (watcher.facing falsified).first = some false
      · rw [if_pos denied]
        exact ⟨rfl, denied, spent⟩
      · rw [if_neg denied]
        refine ⟨rfl, ?_, spent⟩
        cases state : trail.valueOf (watcher.facing falsified).first with
        | none => rfl
        | some truth => cases truth <;> simp_all

/-- A watcher of false literals belongs to a falsified clause. -/
theorem status_of_denied {trail : Trail} {watcher : Watcher}
    (same : watcher.literals.Perm watcher.clause.literals)
    (first : trail.valueOf watcher.first = some false)
    (second : trail.valueOf watcher.second = some false)
    (others : ∀ literal ∈ watcher.others, trail.valueOf literal = some false) :
    watcher.clause.status trail.value = .falsified := by
  rw [Clause.status_eq_falsified_iff]
  intro literal member
  have inside : literal ∈ watcher.literals := same.mem_iff.2 member
  simp only [Watcher.literals, List.mem_cons] at inside
  rcases inside with equal | equal | outside
  · rw [equal]
    exact first
  · rw [equal]
    exact second
  · exact others literal outside

/-- A watcher with only its first literal left belongs to a unit clause. -/
theorem status_of_free {trail : Trail} {watcher : Watcher}
    (same : watcher.literals.Perm watcher.clause.literals)
    (first : trail.valueOf watcher.first = none)
    (second : trail.valueOf watcher.second = some false)
    (others : ∀ literal ∈ watcher.others, trail.valueOf literal = some false) :
    watcher.clause.status trail.value = .unit watcher.first := by
  rw [Clause.status_eq_unit_iff]
  refine ⟨same.mem_iff.1 (by simp [Watcher.literals]), (Literal.value_eq_none_iff ..).1 first, ?_⟩
  intro literal member different
  have inside : literal ∈ watcher.literals := same.mem_iff.2 member
  simp only [Watcher.literals, List.mem_cons] at inside
  rcases inside with equal | equal | outside
  · exact absurd equal different
  · rw [equal]
    exact second
  · exact others literal outside

/-- The lists in the middle of a scan: that of the falsified literal is what stays and what is still
pending. -/
def Scan.view (falsified : Literal) (state : Scan) (pending : List Nat) : Literal → List Nat :=
  fun literal =>
    if literal = falsified then state.staying ++ pending else state.lists.watching literal

/-- The list of a literal after enlisting a watcher. -/
theorem watching_enlist (lists : WatchLists) (chosen literal : Literal) (position : Nat) :
    (lists.enlist chosen position).watching literal =
      if literal = chosen then lists.watching literal ++ [position] else lists.watching literal := by
  unfold enlist watching
  rw [Std.HashMap.getD_insert]
  by_cases same : literal = chosen
  · simp [same]
  · have different : ¬chosen = literal := fun equal => same equal.symm
    simp [same, different]

/-- Bringing the last element to the front is a rearrangement. -/
theorem lastToFront_perm (positions : List Nat) : (lastToFront positions).Perm positions := by
  rcases List.eq_nil_or_concat positions with empty | ⟨front, last, shape⟩
  · simp [empty, lastToFront]
  · rw [shape]
    simp only [lastToFront, List.concat_eq_append, List.getLast?_append, List.getLast?_singleton,
      Option.some_or, Option.toList_some, List.dropLast_concat]
    exact List.perm_append_comm

namespace Scan

variable {clauses : List Clause} {falsified : Literal} {state : Scan} {position : Nat}
  {rest : List Nat} {watcher : Watcher}

/-- The watcher at a pending position is there and watches the falsified literal. -/
theorem exists_pending
    (links : Links (state.view falsified (position :: rest)) state.lists.watchers clauses) :
    ∃ watcher, state.lists.watchers[position]? = some watcher ∧ watcher.Watches falsified := by
  rw [← links.listed]
  simp [view]

/-- A pending watcher watches the falsified literal, and turned it still has the literals of its
clause. -/
theorem pending_watcher
    (links : Links (state.view falsified (position :: rest)) state.lists.watchers clauses)
    (here : state.lists.watchers[position]? = some watcher) :
    watcher.Watches falsified ∧ (watcher.facing falsified).clause ∈ clauses ∧
      (watcher.facing falsified).literals.Perm (watcher.facing falsified).clause.literals := by
  obtain ⟨other, found, watches⟩ := exists_pending links
  rw [here] at found
  cases found
  have inside := Array.mem_of_getElem? here
  rw [watcher.clause_facing]
  exact ⟨watches, links.clause_mem inside,
    (watcher.literals_facing_perm falsified).trans (links.literals watcher inside)⟩

/-- A watcher that is turned and stays leaves the lists in order. -/
theorem links_stay {after : Scan}
    (links : Links (state.view falsified (position :: rest)) state.lists.watchers clauses)
    (here : state.lists.watchers[position]? = some watcher)
    (stored : after.lists = state.lists.store position (watcher.facing falsified))
    (staying : after.staying = position :: state.staying) :
    Links (after.view falsified rest) after.lists.watchers clauses := by
  rw [stored]
  refine (links.turn here falsified).of_perm fun literal => ?_
  unfold view
  split
  · rw [staying]
    exact List.perm_middle.symm
  · rw [stored]
    exact .refl _

/-- A watcher that moves to another list leaves the lists in order. -/
theorem links_move {after : Scan} {moved : Watcher} {usable : Literal → Bool}
    (links : Links (state.view falsified (position :: rest)) state.lists.watchers clauses)
    (here : state.lists.watchers[position]? = some watcher) (watches : watcher.Watches falsified)
    (rewatched : (watcher.facing falsified).rewatch? usable = some moved)
    (stored : after.lists = (state.lists.store position moved).enlist moved.second position)
    (staying : after.staying = state.staying) :
    Links (after.view falsified (lastToFront rest)) after.lists.watchers clauses := by
  have split : (position :: (state.staying ++ rest)).Perm
      (state.view falsified (position :: rest) falsified) := by
    simp only [view, if_true]
    exact List.perm_middle.symm
  rw [stored]
  refine (links.move here watches rewatched split).of_perm fun literal => ?_
  unfold view
  by_cases denied : literal = falsified
  · simp only [denied, if_true, staying]
    exact (lastToFront_perm rest).append_left _
  · simp only [denied, if_false, stored, watching_enlist]
    exact .refl _

end Scan

/-- Working off pending watchers is never refused, keeps the lists in order and is sound. -/
theorem scan_eq_ok {clauses : List Clause} {falsified : Literal} {state : Scan} {pending : List Nat}
    (coherent : state.trail.Coherent) (denied : state.trail.valueOf falsified = some false)
    (links : Links (state.view falsified pending) state.lists.watchers clauses)
    (clean : state.conflict = none) :
    ∃ result, scan falsified state pending = .ok result ∧
      Links (result.view falsified []) result.lists.watchers clauses ∧
      result.lists.short = state.lists.short ∧
      ∃ more, result.forced = state.forced + more ∧
        Propagated.Sound ⟨result.trail, more, result.conflict⟩ clauses state.trail := by
  fun_induction scan falsified state pending with
  | case1 state =>
    refine ⟨state, rfl, links, rfl, 0, rfl, ?_⟩
    rw [clean]
    exact Propagated.sound_none _ _
  | case2 state position rest absent =>
    obtain ⟨watcher, here, _⟩ := Scan.exists_pending links
    rw [absent] at here
    simp at here
  | case3 state position rest watcher here turned seen ih =>
    have outcome := visit_spec state.trail falsified watcher
    rw [seen] at outcome
    obtain ⟨shape, _⟩ := outcome
    subst shape
    exact ih coherent denied (Scan.links_stay links here rfl rfl) clean
  | case4 state position rest watcher here moved seen ih =>
    have outcome := visit_spec state.trail falsified watcher
    rw [seen] at outcome
    obtain ⟨watches, _⟩ := Scan.pending_watcher links here
    exact ih coherent denied (Scan.links_move links here watches outcome.2 rfl rfl) clean
  | case5 state position rest watcher here turned seen =>
    have outcome := visit_spec state.trail falsified watcher
    rw [seen] at outcome
    obtain ⟨shape, first, others⟩ := outcome
    subst shape
    obtain ⟨watches, listed, own⟩ := Scan.pending_watcher links here
    have second := Watcher.second_facing watches
    refine ⟨_, rfl, ?_, rfl, 0, rfl, Propagated.sound_blame listed ?_⟩
    · refine (links.turn here falsified).of_perm fun literal => ?_
      unfold Scan.view
      split
      · simp only [List.append_nil]
        exact ((List.reverse_perm rest).append_right _).trans
          (List.perm_middle.trans ((List.perm_append_comm.cons _).trans List.perm_middle.symm))
      · exact .refl _
    · exact status_of_denied own first (by rw [second]; exact denied) others
  | case6 state position rest watcher here turned seen fault refused =>
    have outcome := visit_spec state.trail falsified watcher
    rw [seen] at outcome
    have free := (Literal.value_eq_none_iff ..).1 outcome.2.1
    rw [Trail.push_eq_extend free] at refused
    simp at refused
  | case7 state position rest watcher here turned seen extended pushed ih =>
    have outcome := visit_spec state.trail falsified watcher
    rw [seen] at outcome
    obtain ⟨shape, first, others⟩ := outcome
    subst shape
    obtain ⟨watches, listed, own⟩ := Scan.pending_watcher links here
    have second := Watcher.second_facing watches
    have unit := status_of_free own first (by rw [second]; exact denied) others
    have free := Trail.free_of_unit unit
    rw [Trail.push_eq_extend free] at pushed
    cases pushed
    obtain ⟨result, finished, linked, short, more, counted, sound⟩ :=
      ih (coherent.extend free _) ((Trail.value_within_extend free _).value denied)
        (Scan.links_stay links here rfl rfl) rfl
    simp only at counted
    exact ⟨result, finished, linked, short, more + 1, by omega, sound.cons listed unit⟩

/-- The lists at the start of a scan are those before it. -/
theorem view_start (lists : WatchLists) (trail : Trail) (falsified literal : Literal) :
    Scan.view falsified ⟨lists, trail, 0, [], none⟩ (lists.watching falsified) literal =
      lists.watching literal := by
  unfold Scan.view
  split
  · rename_i same
    simp [same]
  · rfl

/-- Putting back what stays ends a scan with the lists in order. -/
theorem linked_of_view {clauses : List Clause} {falsified : Literal} {state : Scan}
    (links : Links (state.view falsified []) state.lists.watchers clauses)
    (short : state.lists.short = clauses.filter (·.length < 2)) :
    Linked { state.lists with
      lists := state.lists.lists.insert falsified state.staying.reverse } clauses := by
  refine ⟨links.of_perm fun literal => ?_, short⟩
  unfold watching Scan.view
  rw [Std.HashMap.getD_insert]
  by_cases same : literal = falsified
  · simp only [same, beq_self_eq_true, if_true, List.append_nil]
    exact List.reverse_perm _
  · have different : (falsified == literal) = false := by simpa using fun equal => same equal.symm
    simp only [same, different, Bool.false_eq_true, if_false]
    exact .refl _

/-- A scan starts with the lists in order. -/
theorem Linked.view {clauses : List Clause} {lists : WatchLists} (linked : lists.Linked clauses)
    (trail : Trail) (denied : Literal) :
    Links (Scan.view denied ⟨{ lists with queueHead := lists.queueHead + 1 }, trail, 0, [], none⟩
      (lists.watching denied)) lists.watchers clauses := by
  refine linked.links.of_perm fun other => ?_
  rw [← view_start lists trail denied other]
  exact .refl _

/-- Working off one entry is never refused, keeps the lists in order and is sound. -/
theorem workOff_eq_ok {clauses : List Clause} {lists : WatchLists} {trail : Trail}
    {origin : Entry} (coherent : trail.Coherent) (linked : lists.Linked clauses)
    (present : origin ∈ trail.entries) :
    ∃ state, workOff lists trail origin.literal = .ok state ∧ state.lists.Linked clauses ∧
      Propagated.Sound ⟨state.trail, state.forced, state.conflict⟩ clauses trail := by
  have held := (coherent.valueOf_eq_false_iff _).2
    ⟨origin, present, (Literal.negate_negate _).symm⟩
  obtain ⟨result, scanned, ordered, short, more, counted, sound⟩ :=
    scan_eq_ok coherent held (linked.view trail origin.literal.negate) rfl
  refine ⟨{ result with lists := { result.lists with
    lists := result.lists.lists.insert origin.literal.negate result.staying.reverse } },
    by simp only [workOff, scanned], linked_of_view ordered (short.trans linked.short), ?_⟩
  have same : result.forced = more := by simpa using counted
  rw [same]
  exact sound

/-- What working off an entry gives keeps the lists in order and is sound. -/
theorem workOff_sound {clauses : List Clause} {lists : WatchLists} {trail : Trail} {state : Scan}
    {origin : Entry} (coherent : trail.Coherent) (linked : lists.Linked clauses)
    (present : origin ∈ trail.entries) (worked : workOff lists trail origin.literal = .ok state) :
    state.lists.Linked clauses ∧
      Propagated.Sound ⟨state.trail, state.forced, state.conflict⟩ clauses trail := by
  obtain ⟨other, again, ordered, sound⟩ := workOff_eq_ok coherent linked present
  rw [worked] at again
  cases again
  exact ⟨ordered, sound⟩

/-- Working off the queue is never refused, keeps the lists in order and is sound. -/
theorem drain_eq_ok {clauses : List Clause} {lists : WatchLists} {trail : Trail}
    (coherent : trail.Coherent) (linked : lists.Linked clauses) :
    ∃ result, drain lists trail = .ok result ∧ result.lists.Linked clauses ∧
      result.propagated.Sound clauses trail := by
  fun_induction drain lists trail with
  | case1 lists trail waiting fault failed =>
    obtain ⟨state, worked, _⟩ := workOff_eq_ok coherent linked (Array.getElem_mem waiting)
    rw [failed] at worked
    simp at worked
  | case2 lists trail waiting state worked clause blamed =>
    obtain ⟨ordered, sound⟩ := workOff_sound coherent linked (Array.getElem_mem waiting) worked
    rw [blamed] at sound
    exact ⟨_, rfl, ⟨ordered.links, ordered.short⟩, sound⟩
  | case3 lists trail waiting state worked clean ih =>
    obtain ⟨ordered, sound⟩ := workOff_sound coherent linked (Array.getElem_mem waiting) worked
    obtain ⟨after, finished, linked, rest⟩ := ih (sound.forces.coherent coherent) ordered
    refine ⟨{ after with propagated := { after.propagated with
      forced := state.forced + after.propagated.forced } }, by rw [finished]; rfl, linked, ?_⟩
    exact sound.append rest
  | case4 lists trail idle => exact ⟨_, rfl, linked, Propagated.sound_none _ _⟩

/-- Looking at the short clauses is never refused and sound, and makes each of them true unless it
blames one. -/
theorem checkShort_eq_ok {short : List Clause} (brief : ∀ clause ∈ short, clause.length < 2)
    (trail : Trail) :
    ∃ result, checkShort short trail = .ok result ∧ result.Sound short trail ∧
      (result.conflict = none → ∀ clause ∈ short, ∃ literal ∈ clause.literals,
        literal.value result.trail.value = some true) := by
  induction short generalizing trail with
  | nil => exact ⟨_, rfl, Propagated.sound_none _ _, by simp⟩
  | cons clause rest ih =>
    have widen : ∀ other ∈ rest, other ∈ clause :: rest := fun other => List.mem_cons_of_mem _
    have tail : ∀ other ∈ rest, other.length < 2 := fun other member => brief other (widen other member)
    have length := brief clause List.mem_cons_self
    cases shape : clause.literals with
    | nil =>
      refine ⟨⟨trail, 0, some clause⟩, by simp [checkShort, shape],
        Propagated.sound_blame List.mem_cons_self ?_, fun clean => by simp at clean⟩
      rw [Clause.status_eq_falsified_iff]
      simp [shape]
    | cons literal others =>
      have alone : others = [] := by
        have count : clause.literals.length < 2 := length
        rw [shape, List.length_cons] at count
        exact List.eq_nil_of_length_eq_zero (by omega)
      subst alone
      cases standing : trail.valueOf literal with
      | some truth =>
        cases truth with
        | false =>
          refine ⟨⟨trail, 0, some clause⟩, by simp [checkShort, shape, standing],
            Propagated.sound_blame List.mem_cons_self ?_, fun clean => by simp at clean⟩
          rw [Clause.status_eq_falsified_iff, shape]
          exact List.forall_mem_singleton.2 standing
        | true =>
          obtain ⟨result, checked, sound, settled⟩ := ih tail trail
          refine ⟨result, by simpa [checkShort, shape, standing] using checked, sound.mono widen,
            fun clean => List.forall_mem_cons.2 ⟨⟨literal, by simp [shape], ?_⟩, settled clean⟩⟩
          exact sound.forces.within.value standing
      | none =>
        have free := (Literal.value_eq_none_iff ..).1 standing
        have unit : clause.status trail.value = .unit literal := by
          rw [Clause.status_eq_unit_iff]
          simp [shape, free]
        obtain ⟨result, checked, sound, settled⟩ := ih tail (trail.extend literal (some clause))
        refine ⟨{ result with forced := result.forced + 1 }, ?_,
          (sound.mono widen).cons List.mem_cons_self unit,
          fun clean => List.forall_mem_cons.2 ⟨⟨literal, by simp [shape], ?_⟩, settled clean⟩⟩
        · simp only [checkShort, shape, standing, Trail.push_eq_extend free, checked, Except.map]
        · refine sound.forces.within.value ?_
          rw [Trail.value_extend]
          exact Valuation.value_assign_self ..

/-- The short clauses are those of fewer than two literals. -/
theorem Linked.brief {clauses : List Clause} {lists : WatchLists} (linked : lists.Linked clauses) :
    ∀ clause ∈ lists.short, clause ∈ clauses ∧ clause.length < 2 := by
  intro clause member
  rw [linked.short] at member
  simpa using member

/-- Propagation by watches is never refused, keeps the lists in order and is sound. -/
theorem propagate_eq_ok {clauses : List Clause} {lists : WatchLists} {trail : Trail}
    (coherent : trail.Coherent) (linked : lists.Linked clauses) :
    ∃ result, propagate lists trail = .ok result ∧ result.lists.Linked clauses ∧
      result.propagated.Sound clauses trail := by
  obtain ⟨checked, looked, sound, _⟩ :=
    checkShort_eq_ok (fun clause member => (linked.brief clause member).2) trail
  have first := sound.mono fun clause member => (linked.brief clause member).1
  by_cases blamed : checked.conflict.isSome = true
  · exact ⟨⟨lists, checked⟩, by simp only [propagate, looked, blamed, if_true], linked, first⟩
  · obtain ⟨after, drained, ordered, second⟩ :=
      drain_eq_ok (first.forces.coherent coherent) linked
    refine ⟨{ after with propagated := { after.propagated with
      forced := checked.forced + after.propagated.forced } }, ?_, ordered, first.append second⟩
    simp only [propagate, looked, if_neg blamed, drained, Except.map]

/-- No list names a watcher that does not exist. -/
theorem Links.lt_size {watching : Literal → List Nat} {watchers : Array Watcher}
    {clauses : List Clause} (links : Links watching watchers clauses) {literal : Literal}
    {position : Nat} (member : position ∈ watching literal) : position < watchers.size := by
  obtain ⟨watcher, here, _⟩ := (links.listed literal position).1 member
  exact (Array.getElem?_eq_some_iff.1 here).1

/-- A new watcher listed under its two watches keeps the lists in order. -/
theorem Links.push {watching : Literal → List Nat} {watchers : Array Watcher}
    {clauses : List Clause} (links : Links watching watchers clauses) {watcher : Watcher}
    (same : watcher.literals.Perm watcher.clause.literals) :
    Links (fun literal => if watcher.first = literal ∨ watcher.second = literal then
        watching literal ++ [watchers.size] else watching literal)
      (watchers.push watcher) (clauses ++ [watcher.clause]) := by
  have long : 2 ≤ watcher.clause.length := by
    unfold Clause.length
    rw [← same.length_eq]
    simp [Watcher.literals]
  have fresh : ∀ literal, watchers.size ∉ watching literal :=
    fun literal member => Nat.lt_irrefl _ (links.lt_size member)
  refine ⟨?_, fun other member => ?_, fun literal => ?_, fun literal position => ?_⟩
  · rw [Array.toList_push, List.map_append, List.filter_append, links.covered]
    simp [long]
  · rcases Array.mem_push.1 member with old | new
    · exact links.literals other old
    · rw [new]
      exact same
  · split_ifs with watched
    · rw [List.nodup_append]
      refine ⟨links.once _, List.nodup_singleton _, fun left member right single equal => ?_⟩
      rw [List.mem_singleton.1 single] at equal
      exact fresh literal (equal ▸ member)
    · exact links.once literal
  · have watched : watcher.Watches literal ↔ watcher.first = literal ∨ watcher.second = literal := by
      unfold Watcher.Watches
      rw [eq_comm, eq_comm (a := literal)]
    rw [Array.getElem?_push]
    by_cases last : position = watchers.size
    · subst last
      simp only [if_true, Option.some.injEq, exists_eq_left', watched]
      split_ifs with held
      · simp [held]
      · simp [held, fresh literal]
    · rw [if_neg last, ← links.listed]
      split_ifs with held
      · simp [last]
      · rfl

/-- Starting to look after a clause keeps the lists in order. -/
theorem Linked.watch {clauses : List Clause} {lists : WatchLists} (linked : lists.Linked clauses)
    {clause : Clause} {literals : List Literal} (same : literals.Perm clause.literals) :
    (lists.watch clause literals).Linked (clauses ++ [clause]) := by
  have length : clause.length = literals.length := same.length_eq.symm
  match literals with
  | [] | [_] =>
    refine ⟨⟨?_, linked.links.literals, linked.links.once, linked.links.listed⟩, ?_⟩
    · rw [List.filter_append, ← linked.links.covered]
      simp [WatchLists.watch, length]
    · simp [WatchLists.watch, length, List.filter_append, linked.short]
  | first :: second :: others =>
    have own : (Watcher.mk clause first second others).literals.Perm clause.literals := same
    have links := linked.links.push own
    have apart : first ≠ second := by
      have distinct := same.nodup_iff.2 clause.distinct
      simp only [List.nodup_cons, List.mem_cons, not_or] at distinct
      exact distinct.1.1
    refine ⟨links.of_perm fun literal => ?_, ?_⟩
    · simp only [WatchLists.watch, watching_enlist]
      by_cases one : literal = first
      · subst one
        simp only [apart, if_true, if_false, true_or]
        exact .refl _
      · have other : ¬first = literal := fun equal => one equal.symm
        by_cases two : literal = second
        · subst two
          simp only [one, if_true, if_false, or_true]
          exact .refl _
        · have another : ¬second = literal := fun equal => two equal.symm
          simp only [one, two, other, another, if_false, or_self]
          exact .refl _
    · have long : 1 < clause.length := by
        rw [length]
        simp
      rw [List.filter_append, ← linked.short]
      simpa [WatchLists.watch, enlist] using long

/-- Watching clauses from the start brings the lists in order. -/
theorem linked_ofClauses (clauses : List Clause) : (ofClauses clauses).Linked clauses := by
  have start : empty.Linked [] := by
    refine ⟨⟨rfl, by simp [empty], ?_, ?_⟩, rfl⟩ <;> simp [empty, watching]
  have each : ∀ (rest done : List Clause) (lists : WatchLists), lists.Linked done →
      (rest.foldl (fun lists clause => lists.watch clause clause.literals) lists).Linked
        (done ++ rest) := by
    intro rest
    induction rest with
    | nil =>
      intro done lists linked
      simpa using linked
    | cons clause rest ih =>
      intro done lists linked
      have next := ih (done ++ [clause]) _ (linked.watch (List.Perm.refl clause.literals))
      simpa using next
  exact each clauses [] empty start

/-- Attaching a learned clause keeps the lists in order. -/
theorem Linked.attach {clauses : List Clause} {lists : WatchLists} (linked : lists.Linked clauses)
    (clause : Clause) (trail : Trail) : (lists.attach clause trail).Linked (clauses ++ [clause]) :=
  linked.watch (List.mergeSort_perm ..)

/-- Cutting the queue keeps the lists in order. -/
theorem Linked.backtracked {clauses : List Clause} {lists : WatchLists}
    (linked : lists.Linked clauses) (trail : Trail) : (lists.backtracked trail).Linked clauses :=
  ⟨linked.links, linked.short⟩

end WatchLists

end Clausal
