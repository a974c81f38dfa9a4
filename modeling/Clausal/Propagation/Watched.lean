import Clausal.Propagation.Naive
import Clausal.Total

/-!
# Propagation by two watched literals

A clause of at least two literals is watched through two of them, and is looked at only when one of
the two becomes false. Each literal has a list of the watchers that watch it. Looking at a watcher
either leaves it in the list, or moves it to the list of a literal that is not false; the last
watcher of the list then takes its place and is looked at next. Undoing assignments leaves every
watch as it is, and only the queue of trail entries still to be worked off is cut back.

Clauses of fewer than two literals cannot be watched and are looked at on every call.

The queue ends: working off an entry shortens it, and forcing a literal, which lengthens it, leaves
fewer occurrences without a value among the watchers.
-/

namespace Clausal

/-- A clause seen through its two watched literals. -/
structure Watcher where
  /-- The clause. -/
  clause : Clause
  /-- The watched literal that is forced when no other is left. -/
  first : Literal
  /-- The other watched literal. -/
  second : Literal
  /-- The literals that are not watched. -/
  others : List Literal

namespace Watcher

/-- The literals, the watched ones first. -/
def literals (watcher : Watcher) : List Literal :=
  watcher.first :: watcher.second :: watcher.others

/-- Makes sure that a watched literal is the second one. -/
def facing (watcher : Watcher) (falsified : Literal) : Watcher :=
  if watcher.first = falsified then
    { watcher with first := watcher.second, second := watcher.first }
  else watcher

/-- The list with its first usable literal replaced, together with that literal. -/
def exchange (usable : Literal → Bool) (incoming : Literal) :
    List Literal → Option (Literal × List Literal)
  | [] => none
  | literal :: rest =>
    if usable literal then some (literal, incoming :: rest)
    else (exchange usable incoming rest).map fun found => (found.1, literal :: found.2)

/-- Watches the first usable literal instead of the second watched one. -/
def rewatch? (watcher : Watcher) (usable : Literal → Bool) : Option Watcher :=
  (exchange usable watcher.second watcher.others).map fun found =>
    { watcher with second := found.1, others := found.2 }

/-- The number of literals without a value. -/
def freeLiterals (trail : Trail) (watcher : Watcher) : Nat :=
  watcher.literals.countP fun literal => !trail.isAssigned literal.var

/-- Turning a watcher keeps its literals. -/
theorem literals_facing_perm (watcher : Watcher) (falsified : Literal) :
    (watcher.facing falsified).literals.Perm watcher.literals := by
  unfold facing
  split
  · exact List.Perm.swap ..
  · exact List.Perm.refl _

/-- An exchange keeps the literals, the incoming one among them. -/
theorem exchange_perm {usable : Literal → Bool} {incoming : Literal} {given : List Literal}
    {found : Literal × List Literal} (exchanged : exchange usable incoming given = some found) :
    (found.1 :: found.2).Perm (incoming :: given) := by
  induction given generalizing found with
  | nil => simp [exchange] at exchanged
  | cons head rest ih =>
    rw [exchange] at exchanged
    split at exchanged
    · have shape := Option.some.inj exchanged
      subst shape
      exact List.Perm.swap ..
    · obtain ⟨inner, reached, shape⟩ := Option.map_eq_some_iff.1 exchanged
      subst shape
      exact (List.Perm.swap ..).trans (((ih reached).cons head).trans (List.Perm.swap ..))

/-- Choosing another watch keeps the literals. -/
theorem literals_rewatch?_perm {watcher moved : Watcher} {usable : Literal → Bool}
    (rewatched : watcher.rewatch? usable = some moved) :
    moved.literals.Perm watcher.literals := by
  obtain ⟨found, exchanged, shape⟩ := Option.map_eq_some_iff.1 rewatched
  subst shape
  exact (exchange_perm exchanged).cons _

/-- Watchers with the same literals have equally many without a value. -/
theorem freeLiterals_eq_of_perm {left right : Watcher} (trail : Trail)
    (same : left.literals.Perm right.literals) :
    left.freeLiterals trail = right.freeLiterals trail :=
  same.countP_eq _

end Watcher

/-- Watchers, the lists that find them, and the queue of trail entries to be worked off. -/
structure WatchLists where
  /-- All watchers. -/
  watchers : Array Watcher
  /-- For each literal the watchers that watch it, by position. -/
  lists : Std.HashMap Literal (List Nat)
  /-- The clauses that are too short to be watched. -/
  short : List Clause
  /-- The first trail position whose entry has not been worked off. -/
  queueHead : Nat

namespace WatchLists

/-- No clause is watched. -/
def empty : WatchLists := ⟨#[], ∅, [], 0⟩

/-- The watchers of a literal. -/
def watching (lists : WatchLists) (literal : Literal) : List Nat :=
  lists.lists.getD literal []

/-- Appends a watcher to the list of a literal. -/
def enlist (lists : WatchLists) (literal : Literal) (position : Nat) : WatchLists :=
  { lists with lists := lists.lists.insert literal (lists.watching literal ++ [position]) }

/-- Replaces a watcher. -/
def store (lists : WatchLists) (position : Nat) (watcher : Watcher) : WatchLists :=
  { lists with watchers := lists.watchers.setIfInBounds position watcher }

/-- Starts to look after a clause whose literals are given in the order of preference: the first two
are watched. -/
def watch (lists : WatchLists) (clause : Clause) (literals : List Literal) : WatchLists :=
  match literals with
  | first :: second :: others =>
    let position := lists.watchers.size
    let added := { lists with watchers := lists.watchers.push ⟨clause, first, second, others⟩ }
    (added.enlist first position).enlist second position
  | _ => { lists with short := lists.short ++ [clause] }

/-- Watches the clauses in order, each through its first two literals. -/
def ofClauses (clauses : List Clause) : WatchLists :=
  clauses.foldl (fun lists clause => lists.watch clause clause.literals) empty

/-- The place of a literal among the candidates for a watch: literals without a value first, then
assigned ones from the deepest level up. -/
def rank (trail : Trail) (literal : Literal) : Nat × Int :=
  match trail.entryOf? literal.var with
  | none => (0, 0)
  | some entry => (1, -entry.level)

/-- Comparison by `rank`. -/
def notAfter (trail : Trail) (left right : Literal) : Bool :=
  let (leftAssigned, leftDepth) := rank trail left
  let (rightAssigned, rightDepth) := rank trail right
  leftAssigned < rightAssigned || (leftAssigned == rightAssigned && leftDepth ≤ rightDepth)

/-- Starts to look after a clause learned under a trail. Equal ranks keep the clause's order. -/
def attach (lists : WatchLists) (clause : Clause) (trail : Trail) : WatchLists :=
  lists.watch clause (clause.literals.mergeSort (notAfter trail))

/-- Cuts the queue back to the trail. -/
def backtracked (lists : WatchLists) (trail : Trail) : WatchLists :=
  { lists with queueHead := min lists.queueHead trail.size }

/-- What came of the clauses too short to be watched. -/
def checkShort : List Clause → Trail → Except Fault Propagated
  | [], trail => .ok ⟨trail, 0, none⟩
  | clause :: rest, trail =>
    match clause.literals with
    | [] => .ok ⟨trail, 0, some clause⟩
    | literal :: _ =>
      match trail.valueOf literal with
      | some false => .ok ⟨trail, 0, some clause⟩
      | some true => checkShort rest trail
      | none =>
        match trail.push literal (some clause) with
        | .error fault => .error fault
        | .ok extended =>
          (checkShort rest extended).map fun result => { result with forced := result.forced + 1 }

/-- What looking at one watcher of a falsified literal amounts to. -/
inductive Visit where
  /-- The watcher stays, turned so that its other watch comes first. -/
  | kept (watcher : Watcher)
  /-- The watcher moves to the list of the literal that it now watches. -/
  | moved (watcher : Watcher)
  /-- The watcher stays and its first literal is forced. -/
  | forces (watcher : Watcher)
  /-- The watcher stays and its clause is falsified. -/
  | falsified (watcher : Watcher)

/-- Looks at one watcher of a falsified literal. -/
def visit (trail : Trail) (falsified : Literal) (watcher : Watcher) : Visit :=
  let turned := watcher.facing falsified
  if trail.valueOf turned.first = some true then .kept turned
  else match turned.rewatch? fun literal => trail.valueOf literal != some false with
    | some moved => .moved moved
    | none => if trail.valueOf turned.first = some false then .falsified turned else .forces turned

/-- The list with its last element brought to the front. -/
def lastToFront (positions : List Nat) : List Nat :=
  positions.getLast?.toList ++ positions.dropLast

/-- Bringing the last element to the front keeps the length. -/
theorem length_lastToFront (positions : List Nat) :
    (lastToFront positions).length = positions.length := by
  cases positions with
  | nil => rfl
  | cons head rest => simp [lastToFront, List.getLast?_eq_some_getLast]

/-- The state of working off the watchers of one literal. -/
structure Scan where
  /-- The watch lists so far. -/
  lists : WatchLists
  /-- The trail so far. -/
  trail : Trail
  /-- How many literals were forced so far. -/
  forced : Nat
  /-- The watchers that stay, latest first. -/
  staying : List Nat
  /-- The falsified clause that ended the scan, if one did. -/
  conflict : Option Clause

/-- Works off the pending watchers of a falsified literal. -/
def scan (falsified : Literal) (state : Scan) (pending : List Nat) : Except Fault Scan :=
  match pending with
  | [] => .ok state
  | position :: rest =>
    match state.lists.watchers[position]? with
    | none => scan falsified { state with staying := position :: state.staying } rest
    | some watcher =>
      match visit state.trail falsified watcher with
      | .kept turned =>
        scan falsified { state with
          lists := state.lists.store position turned
          staying := position :: state.staying } rest
      | .moved moved =>
        scan falsified { state with
          lists := (state.lists.store position moved).enlist moved.second position }
          (lastToFront rest)
      | .falsified turned =>
        .ok { state with
          lists := state.lists.store position turned
          staying := rest.reverse ++ position :: state.staying
          conflict := some turned.clause }
      | .forces turned =>
        match state.trail.push turned.first (some turned.clause) with
        | .error fault => .error fault
        | .ok extended =>
          scan falsified {
            lists := state.lists.store position turned
            trail := extended
            forced := state.forced + 1
            staying := position :: state.staying
            conflict := none } rest
termination_by pending.length
decreasing_by all_goals simp_all [length_lastToFront]

/-- The number of literal occurrences without a value among the watchers. -/
def freeOccurrences (lists : WatchLists) (trail : Trail) : Nat :=
  total (lists.watchers.toList.map (Watcher.freeLiterals trail))

/-- Replacing a watcher by one with the same literals changes no count. -/
theorem freeOccurrences_store {lists : WatchLists} {position : Nat} {watcher stored : Watcher}
    (trail : Trail) (present : lists.watchers[position]? = some watcher)
    (same : stored.literals.Perm watcher.literals) :
    (lists.store position stored).freeOccurrences trail = lists.freeOccurrences trail := by
  have counts := Watcher.freeLiterals_eq_of_perm trail same
  obtain ⟨bound, shape⟩ := Array.getElem?_eq_some_iff.1 present
  simp only [freeOccurrences, store, Array.toList_setIfInBounds, List.map_set]
  rw [counts, ← shape]
  congr 1
  apply List.ext_getElem?
  intro other
  rw [List.getElem?_set]
  split
  · rename_i here
    subst here
    simp [bound]
  · rfl

/-- Forcing a literal of a watcher leaves fewer occurrences without a value. -/
theorem freeOccurrences_push_lt {lists : WatchLists} {trail extended : Trail} {position : Nat}
    {watcher : Watcher} {literal : Literal} {reason : Option Clause}
    (present : lists.watchers[position]? = some watcher) (member : literal ∈ watcher.literals)
    (free : trail.isAssigned literal.var = false)
    (pushed : trail.push literal reason = .ok extended) :
    lists.freeOccurrences extended < lists.freeOccurrences trail := by
  have weaker : ∀ other : Literal,
      (!extended.isAssigned other.var) = true → (!trail.isAssigned other.var) = true := by
    intro other unassigned
    cases state : trail.isAssigned other.var with
    | false => rfl
    | true => simp [Trail.isAssigned_of_push pushed state] at unassigned
  have noMore : ∀ other : Watcher, other.freeLiterals extended ≤ other.freeLiterals trail :=
    fun other => List.countP_mono_left fun literal _ => weaker literal
  have fewer : watcher.freeLiterals extended < watcher.freeLiterals trail := by
    obtain ⟨before, after, split⟩ := List.append_of_mem member
    unfold Watcher.freeLiterals
    rw [split, List.countP_append, List.countP_append, List.countP_cons, List.countP_cons]
    have left := List.countP_mono_left (l := before) fun other _ => weaker other
    have right := List.countP_mono_left (l := after) fun other _ => weaker other
    simp only [free, Trail.isAssigned_push_self pushed, Bool.not_true, Bool.not_false, if_true,
      Bool.false_eq_true, if_false]
    omega
  obtain ⟨bound, shape⟩ := Array.getElem?_eq_some_iff.1 present
  have inside : watcher ∈ lists.watchers.toList := by
    rw [← shape]
    exact Array.getElem_mem_toList bound
  obtain ⟨before, after, split⟩ := List.append_of_mem inside
  have sums : ∀ part : List Watcher,
      total (part.map (Watcher.freeLiterals extended)) ≤
        total (part.map (Watcher.freeLiterals trail)) := by
    intro part
    induction part with
    | nil => simp
    | cons head rest ih =>
      have one := noMore head
      simp only [List.map_cons, total_cons]
      omega
  unfold freeOccurrences
  rw [split]
  simp only [List.map_append, List.map_cons, total_append, total_cons]
  have left := sums before
  have right := sums after
  omega

/-- Enlisting touches no watcher. -/
@[simp]
theorem freeOccurrences_enlist (lists : WatchLists) (literal : Literal) (position : Nat)
    (trail : Trail) :
    (lists.enlist literal position).freeOccurrences trail = lists.freeOccurrences trail := rfl

/-- The outcome of a visit in terms of the watcher's literals, and of the value of a literal that is
to be forced. -/
theorem visit_literals (trail : Trail) (falsified : Literal) (watcher : Watcher) :
    match visit trail falsified watcher with
    | .kept result | .moved result | .falsified result => result.literals.Perm watcher.literals
    | .forces result =>
      result.literals.Perm watcher.literals ∧ trail.isAssigned result.first.var = false := by
  have turned := watcher.literals_facing_perm falsified
  unfold visit
  by_cases satisfied : trail.valueOf (watcher.facing falsified).first = some true
  · simp only [satisfied, if_true]
    exact turned
  · simp only [satisfied, if_false]
    cases choice : (watcher.facing falsified).rewatch?
        fun literal => trail.valueOf literal != some false with
    | some moved => exact (Watcher.literals_rewatch?_perm choice).trans turned
    | none =>
      by_cases denied : trail.valueOf (watcher.facing falsified).first = some false
      · simp only [denied, if_true]
        exact turned
      · simp only [denied, if_false]
        refine ⟨turned, (Trail.isAssigned_eq_false_iff ..).2 ?_⟩
        rw [← Literal.value_eq_none_iff]
        cases state : trail.valueOf (watcher.facing falsified).first with
        | none => exact state
        | some value => cases value <;> simp_all

/-- Forcing a literal without a value makes the trail longer by one. -/
theorem size_of_forced {trail extended : Trail} {literal : Literal} {reason : Option Clause}
    (free : trail.isAssigned literal.var = false)
    (pushed : trail.push literal reason = .ok extended) : extended.size = trail.size + 1 := by
  rcases Trail.push_eq_ok pushed with ⟨_, shape⟩ | ⟨held, _⟩
  · simp [shape, Trail.extend, Trail.size]
  · simp [held] at free

/-- A scan never shortens the trail, and lengthens it by no more than it lowers the number of
occurrences without a value. -/
theorem scan_measure {falsified : Literal} {state result : Scan} {pending : List Nat}
    (scanned : scan falsified state pending = .ok result) :
    state.trail.size ≤ result.trail.size ∧
      result.trail.size + result.lists.freeOccurrences result.trail ≤
        state.trail.size + state.lists.freeOccurrences state.trail := by
  fun_induction scan falsified state pending with
  | case1 state => cases scanned; exact ⟨Nat.le_refl _, Nat.le_refl _⟩
  | case2 state position rest absent ih => exact ih scanned
  | case3 state position rest watcher present turned seen ih =>
    have literals := visit_literals state.trail falsified watcher
    rw [seen] at literals
    have counted := freeOccurrences_store state.trail present literals
    have after := ih scanned
    simp only [counted] at after
    exact after
  | case4 state position rest watcher present moved seen ih =>
    have literals := visit_literals state.trail falsified watcher
    rw [seen] at literals
    have counted := freeOccurrences_store state.trail present literals
    have after := ih scanned
    simp only [freeOccurrences_enlist, counted] at after
    exact after
  | case5 state position rest watcher present turned seen =>
    have literals := visit_literals state.trail falsified watcher
    rw [seen] at literals
    have counted := freeOccurrences_store state.trail present literals
    cases scanned
    simp only [counted]
    exact ⟨Nat.le_refl _, Nat.le_refl _⟩
  | case6 state position rest watcher present turned seen fault refused => simp at scanned
  | case7 state position rest watcher present turned seen extended pushed ih =>
    have literals := visit_literals state.trail falsified watcher
    rw [seen] at literals
    obtain ⟨same, free⟩ := literals
    have counted := freeOccurrences_store extended present same
    have member : turned.first ∈ watcher.literals :=
      same.mem_iff.1 (by simp [Watcher.literals])
    have fewer := freeOccurrences_push_lt present member free pushed
    have longer := size_of_forced free pushed
    have after := ih scanned
    simp only [counted] at after
    omega

/-- The result of working off the queue. -/
structure Drained where
  /-- The watch lists afterwards. -/
  lists : WatchLists
  /-- The trail, the forced literals and the falsified clause. -/
  propagated : Propagated

/-- Works off one trail entry: everything that watches the negation of its literal is looked at. -/
def workOff (lists : WatchLists) (trail : Trail) (literal : Literal) : Except Fault Scan :=
  let falsified := literal.negate
  let advanced := { lists with queueHead := lists.queueHead + 1 }
  match scan falsified ⟨advanced, trail, 0, [], none⟩ (lists.watching falsified) with
  | .error fault => .error fault
  | .ok state => .ok { state with
      lists := { state.lists with
        lists := state.lists.lists.insert falsified state.staying.reverse } }

/-- A scan leaves the queue alone. -/
theorem scan_queueHead {falsified : Literal} {state result : Scan} {pending : List Nat}
    (scanned : scan falsified state pending = .ok result) :
    result.lists.queueHead = state.lists.queueHead := by
  fun_induction scan falsified state pending with
  | case1 state => cases scanned; rfl
  | case2 state position rest absent ih => exact ih scanned
  | case3 state position rest watcher present turned seen ih => exact ih scanned
  | case4 state position rest watcher present moved seen ih => exact ih scanned
  | case5 state position rest watcher present turned seen => cases scanned; rfl
  | case6 state position rest watcher present turned seen fault refused => simp at scanned
  | case7 state position rest watcher present turned seen extended pushed ih => exact ih scanned

/-- Working off an entry brings the end of the queue nearer. -/
theorem workOff_measure {lists : WatchLists} {trail : Trail} {literal : Literal} {state : Scan}
    (worked : workOff lists trail literal = .ok state) (waiting : lists.queueHead < trail.size) :
    (state.trail.size - state.lists.queueHead) + state.lists.freeOccurrences state.trail <
      (trail.size - lists.queueHead) + lists.freeOccurrences trail := by
  simp only [workOff] at worked
  split at worked
  · simp at worked
  · rename_i inner scanned
    obtain ⟨grown, bound⟩ := scan_measure scanned
    have head := scan_queueHead scanned
    cases worked
    have start : ({ lists with queueHead := lists.queueHead + 1 } : WatchLists).freeOccurrences
        trail = lists.freeOccurrences trail := rfl
    have finish : ({ inner.lists with
        lists := inner.lists.lists.insert literal.negate inner.staying.reverse } :
          WatchLists).freeOccurrences inner.trail = inner.lists.freeOccurrences inner.trail := rfl
    simp only at grown bound head
    rw [finish]
    simp only [head]
    omega

/-- Works off the queue until it is empty or some clause is falsified; a conflict empties it. -/
def drain (lists : WatchLists) (trail : Trail) : Except Fault Drained :=
  if waiting : lists.queueHead < trail.entries.size then
    match worked : workOff lists trail trail.entries[lists.queueHead].literal with
    | .error fault => .error fault
    | .ok state =>
      match state.conflict with
      | some clause => .ok {
          lists := { state.lists with queueHead := state.trail.size }
          propagated := ⟨state.trail, state.forced, some clause⟩ }
      | none => (drain state.lists state.trail).map fun after => { after with
          propagated := { after.propagated with
            forced := state.forced + after.propagated.forced } }
  else .ok ⟨lists, ⟨trail, 0, none⟩⟩
termination_by (trail.size - lists.queueHead) + lists.freeOccurrences trail
decreasing_by exact workOff_measure worked waiting

/-- Forces literals until no clause is unit or some clause is falsified: first by the clauses too
short to be watched, then along the queue. -/
def propagate (lists : WatchLists) (trail : Trail) : Except Fault Drained :=
  match checkShort lists.short trail with
  | .error fault => .error fault
  | .ok checked =>
    if checked.conflict.isSome then .ok ⟨lists, checked⟩
    else (drain lists checked.trail).map fun after => { after with
      propagated := { after.propagated with forced := checked.forced + after.propagated.forced } }

end WatchLists

end Clausal
