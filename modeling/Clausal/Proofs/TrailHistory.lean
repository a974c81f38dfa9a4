import Mathlib
import Clausal.Session
import Clausal.Proofs.Coherence

/-!
# Histories of a trail

A trail may be worked on by hand: levels opened with nothing in them, literals pushed that hold already or
that contradict what holds, levels undone that were never reached. The first result says that the parts
of a trail agree after every such history. One part is a table of its own: the values of the variables,
entered when a literal is pushed and struck out one by one when entries are removed. It lists the entries
in trail order, although nothing but single insertions and removals ever happens to it.

The second result is that undoing is exact. Above a level that was opened at some moment anything may
happen; as long as the level itself is not left, undoing to where it was opened brings back what was there
at that moment. The invariant behind it is that the old entries are still the first ones, and the old level
starts, with the one opened last, still the first of those.
-/

namespace Clausal

namespace Assignment

/-- The values that entries give to their variables, in the order of the entries. -/
def ofEntries (entries : List Entry) : Assignment :=
  ⟨entries.map fun entry => (entry.var, entry.truth)⟩

/-- Strikes out a variable; one without a value is refused. -/
def strike? (assignment : Assignment) (var : Int) : Option Assignment :=
  if assignment.pairs.any (·.1 == var) then some ⟨assignment.pairs.filter (·.1 != var)⟩ else none

/-- A new variable takes the last place. -/
theorem insert_ofEntries {entries : List Entry} (entry : Entry)
    (fresh : entry.var ∉ entries.map Entry.var) :
    (ofEntries entries).insert entry.var entry.truth = ofEntries (entries ++ [entry]) := by
  have absent : ¬(ofEntries entries).pairs.any (·.1 == entry.var) = true := by
    simpa [ofEntries] using fresh
  rw [insert, if_neg absent]
  simp [ofEntries]

/-- Striking out the variable that was entered last leaves the others in their places. -/
theorem strike?_ofEntries {entries : List Entry} {entry : Entry}
    (fresh : entry.var ∉ entries.map Entry.var) :
    (ofEntries (entries ++ [entry])).strike? entry.var = some (ofEntries entries) := by
  have present : (ofEntries (entries ++ [entry])).pairs.any (·.1 == entry.var) = true := by
    simp [ofEntries]
  have others : (ofEntries entries).pairs.filter (·.1 != entry.var) = (ofEntries entries).pairs := by
    rw [List.filter_eq_self]
    intro pair member
    obtain ⟨other, inside, shape⟩ := List.mem_map.1 member
    have different : other.var ≠ entry.var := fun same => fresh (List.mem_map.2 ⟨other, inside, same⟩)
    rw [← shape]
    simpa using different
  rw [strike?, if_pos present]
  simp only [ofEntries, List.map_append, List.map_cons, List.map_nil, List.filter_append] at others ⊢
  rw [others]
  simp

/-- Striking out the variables of the last entries, latest first, is never refused and leaves the values of
the first ones. The latest entry goes first, so the induction takes entries off the end. -/
theorem foldlM_strike? {kept removed : List Entry}
    (distinct : ((kept ++ removed).map Entry.var).Nodup) :
    removed.reverse.foldlM (fun table entry => table.strike? entry.var) (ofEntries (kept ++ removed)) =
      some (ofEntries kept) := by
  induction removed using List.reverseRecOn with
  | nil => simp
  | append_singleton front last ih =>
    rw [← List.append_assoc, List.map_append, List.nodup_append] at distinct
    obtain ⟨shorter, _, apart⟩ := distinct
    have fresh : last.var ∉ (kept ++ front).map Entry.var :=
      fun member => apart _ member last.var (by simp) rfl
    rw [List.reverse_append, List.reverse_singleton, List.singleton_append, List.foldlM_cons,
      ← List.append_assoc, strike?_ofEntries fresh]
    exact ih shorter

end Assignment

namespace Trail

/-- The assignment of a trail lists the values of its entries. -/
theorem assignment_eq (trail : Trail) :
    trail.assignment = .ofEntries trail.entries.toList := rfl

/-- Looking a variable up in the assignment gives its value. -/
theorem Coherent.get?_assignment {trail : Trail} (coherent : trail.Coherent) :
    trail.assignment.get? = trail.value := by
  funext var
  have found : trail.entries.toList.find? (fun entry => entry.var == var) = trail.entryOf? var := by
    cases held : trail.entryOf? var with
    | none =>
      have free : trail.value var = none := by simp [value, held]
      rw [List.find?_eq_none]
      intro entry member
      simpa using (coherent.value_eq_none_iff var).1 free entry (by simpa using member)
    | some entry =>
      obtain ⟨member, named⟩ := (coherent.indexed var entry).1 held
      cases first : trail.entries.toList.find? (fun entry => entry.var == var) with
      | none =>
        have missed := List.find?_eq_none.1 first entry (by simpa using member)
        simp [named] at missed
      | some other =>
        have same : other.var = var := by simpa using List.find?_some first
        have inside := List.mem_of_find?_eq_some first
        rw [coherent.eq_of_var (by simpa using inside) member (same.trans named.symm)]
  unfold Assignment.get? assignment value
  rw [List.find?_map, Option.map_map, ← found]
  rfl

/-- One operation carried out: the trail it gives, or the old one if it is refused. -/
theorem performAll_single (trail : Trail) (operation : Operation) :
    trail.performAll [operation] = (trail.perform operation).toOption.getD trail := rfl

/-- A refused operation leaves the trail as it is. -/
theorem performAll_of_error {trail : Trail} {operation : Operation} {fault : Fault}
    (failed : trail.perform operation = .error fault) : trail.performAll [operation] = trail := by
  rw [performAll_single, failed]
  rfl

/-- Operations go on from where earlier ones stopped. -/
theorem performAll_append (trail : Trail) (first second : List Operation) :
    trail.performAll (first ++ second) = (trail.performAll first).performAll second :=
  List.foldl_append

/-- What one operation makes of a trail. A push that is refused and one of a literal that holds leave the
trail as it is, and so does going back to a negative level. -/
inductive Becomes (trail : Trail) : Operation → Trail → Prop
  /-- A level is opened. -/
  | opened : Becomes trail .newLevel trail.newLevel
  /-- A literal without a value is assigned. -/
  | extended {literal : Literal} {reason : Option Clause} (free : trail.value literal.var = none) :
      Becomes trail (.push literal reason) (trail.extend literal reason)
  /-- The variable has a value already. -/
  | held {literal : Literal} {reason : Option Clause} (assigned : trail.isAssigned literal.var = true) :
      Becomes trail (.push literal reason) trail
  /-- There is no level below zero. -/
  | refused {level : Int} (negative : level < 0) : Becomes trail (.undo level) trail
  /-- The entries above the level are removed. -/
  | undone {level : Int} (natural : ¬level < 0) :
      Becomes trail (.undo level) (trail.undoTo level.toNat).1

/-- Every operation makes of a trail one of these. -/
theorem Coherent.becomes_performAll {trail : Trail} (coherent : trail.Coherent)
    (operation : Operation) : trail.Becomes operation (trail.performAll [operation]) := by
  cases operation with
  | newLevel => exact .opened
  | push literal reason =>
    cases free : trail.entryOf? literal.var with
    | none =>
      have absent : trail.value literal.var = none := by simp [value, free]
      rw [performAll_single, Trail.perform, push_eq_extend absent reason]
      exact .extended absent
    | some entry =>
      have same : trail.performAll [.push literal reason] = trail := by
        simp only [performAll_single, Trail.perform, Trail.push, free]
        split <;> rfl
      rw [same]
      exact .held (by simp [isAssigned, free])
  | undo level =>
    rw [performAll_single, Trail.perform]
    by_cases negative : level < 0
    · rw [Trail.undo, if_pos negative]
      exact .refused negative
    · rw [coherent.undo_eq_ok negative]
      exact .undone negative

/-- What an operation on a trail does to a table of values kept beside it: a literal without a value is
entered, and the variables of removed entries are struck out, latest first. -/
def retable (trail : Trail) (table : Assignment) : Operation → Option Assignment
  | .newLevel => some table
  | .push literal _ =>
    some (if trail.isAssigned literal.var then table else table.insert literal.var !literal.negated)
  | .undo level =>
    if level < 0 then some table
    else (trail.undoTo level.toNat).2.foldlM (fun table entry => table.strike? entry.var) table

/-- The table after operations on a trail one after another, unless a variable was to be struck out that
had no value. -/
def tabulate (trail : Trail) (table : Assignment) : List Operation → Option Assignment
  | [] => some table
  | operation :: rest =>
    (trail.retable table operation).bind fun next =>
      tabulate (trail.performAll [operation]) next rest

/-- One operation keeps the table equal to the assignment of the trail. -/
theorem Coherent.retable_assignment {trail : Trail} (coherent : trail.Coherent)
    (operation : Operation) :
    trail.retable trail.assignment operation = some (trail.performAll [operation]).assignment := by
  have becomes := coherent.becomes_performAll operation
  generalize trail.performAll [operation] = next at becomes
  cases becomes with
  | opened => rfl
  | @extended literal reason free =>
    have unassigned := (isAssigned_eq_false_iff ..).2 free
    have fresh : literal.var ∉ trail.entries.toList.map Entry.var := by
      intro member
      obtain ⟨entry, inside, named⟩ := List.mem_map.1 member
      exact (coherent.value_eq_none_iff _).1 free entry (by simpa using inside) named
    have entered := Assignment.insert_ofEntries ⟨literal, trail.level, reason, trail.size⟩ fresh
    simp only [retable, unassigned, Bool.false_eq_true, if_false, assignment_eq,
      Trail.extend, Array.toList_push]
    exact congrArg some entered
  | held assigned => simp only [retable, assigned, if_true]
  | refused negative => simp only [retable, negative, if_true]
  | @undone level natural =>
    simp only [retable, natural, if_false]
    by_cases below : level.toNat < trail.level
    · obtain ⟨start, found⟩ := exists_start below
      have whole := List.take_append_drop start trail.entries.toList
      have distinct := coherent.distinct
      rw [← whole] at distinct
      have struck := Assignment.foldlM_strike? distinct
      rw [whole] at struck
      rw [assignment_eq, assignment_eq, entries_undoTo found, toList_take]
      simp only [Trail.undoTo, found]
      exact struck
    · have absent : trail.levelStarts[level.toNat]? = none := Array.getElem?_eq_none (Nat.not_lt.1 below)
      simp [Trail.undoTo, absent]

/-- Operations keep the table equal to the assignment of the trail. -/
theorem Coherent.tabulate_assignment {trail : Trail} (coherent : trail.Coherent)
    (operations : List Operation) :
    trail.tabulate trail.assignment operations = some (trail.performAll operations).assignment := by
  induction operations generalizing trail with
  | nil => rfl
  | cons operation rest ih =>
    rw [tabulate, coherent.retable_assignment operation, Option.bind_some]
    exact ih (coherent.performAll [operation])

/-- The refusals of a trail: a literal whose opposite it holds, and a level below zero. -/
inductive Refuses (trail : Trail) : Operation → Fault → Prop
  /-- The trail holds the opposite. -/
  | contradicted {literal : Literal} {reason : Option Clause} {entry : Entry}
      (present : entry ∈ trail.entries) (opposite : entry.literal = literal.negate) :
      Refuses trail (.push literal reason) (.contradictsTrail literal entry.literal)
  /-- There is no such level. -/
  | negative {level : Int} (below : level < 0) : Refuses trail (.undo level) (.negativeLevel level)

/-- These are the only refusals. -/
theorem Coherent.perform_eq_error_iff {trail : Trail} (coherent : trail.Coherent)
    {operation : Operation} {fault : Fault} :
    trail.perform operation = .error fault ↔ trail.Refuses operation fault := by
  constructor
  · intro failed
    cases operation with
    | newLevel => cases failed
    | push literal reason =>
      simp only [Trail.perform, Trail.push] at failed
      split at failed
      · cases failed
      · rename_i entry held
        obtain ⟨present, named⟩ := (coherent.indexed ..).1 held
        split at failed
        · cases failed
        · rename_i different
          cases failed
          rcases Literal.eq_or_eq_negate named with equal | opposite
          · exact absurd equal different
          · exact .contradicted present opposite
    | undo level =>
      by_cases below : level < 0
      · simp only [Trail.perform, Trail.undo, if_pos below] at failed
        cases failed
        exact .negative below
      · simp only [Trail.perform, coherent.undo_eq_ok below] at failed
        cases failed
  · intro refuses
    cases refuses with
    | @contradicted literal reason entry present opposite =>
      have held := (coherent.indexed literal.var entry).2 ⟨present, Entry.var_of_denies opposite⟩
      have different : ¬entry.literal = literal := by
        rw [opposite]
        exact literal.negate_ne_self
      simp only [Trail.perform, Trail.push, held, if_neg different]
    | negative below =>
      simp only [Trail.perform, Trail.undo, if_pos below]
      rfl

/-- The operation as a command of a session. -/
def Operation.command : Operation → Session.Command
  | .newLevel => .newLevel
  | .push literal reason => .push literal reason
  | .undo level => .undo level

end Trail

namespace Session

/-- A session carries an operation out on its trail and touches nothing else. -/
theorem apply_command (session : Session) (operation : Trail.Operation) :
    (session.apply operation.command).1 =
      { session with trail := session.trail.performAll [operation] } := by
  cases operation with
  | newLevel => rfl
  | push literal reason =>
    simp only [Trail.Operation.command, apply, Trail.performAll_single, Trail.perform]
    cases session.trail.push literal reason <;> rfl
  | undo level =>
    simp only [Trail.Operation.command, apply, Trail.performAll_single, Trail.perform]
    cases session.trail.undo level <;> rfl

/-- A session refuses an operation for the cause for which its trail does. -/
theorem apply_command_eq_error_iff (session : Session) (operation : Trail.Operation) (fault : Fault) :
    (session.apply operation.command).2 = .error fault ↔
      session.trail.perform operation = .error fault := by
  cases operation with
  | newLevel => simp [Trail.Operation.command, apply, Trail.perform]
  | push literal reason =>
    simp only [Trail.Operation.command, apply, Trail.perform]
    cases session.trail.push literal reason <;> simp
  | undo level =>
    simp only [Trail.Operation.command, apply, Trail.perform]
    cases session.trail.undo level <;> simp [Except.map]

/-- An operation that is refused leaves a session as it is. -/
theorem apply_command_of_error {session : Session} {operation : Trail.Operation} {fault : Fault}
    (failed : session.trail.perform operation = .error fault) :
    (session.apply operation.command).1 = session := by
  rw [session.apply_command operation, Trail.performAll_of_error failed]

/-- A session carries operations out one after another on its trail. -/
theorem applyAll_commands (session : Session) (operations : List Trail.Operation) :
    session.applyAll (operations.map Trail.Operation.command) =
      { session with trail := session.trail.performAll operations } := by
  induction operations generalizing session with
  | nil => rfl
  | cons operation rest ih =>
    have next := ih (session.apply operation.command).1
    rw [session.apply_command operation] at next
    exact (congrArg (fun current => applyAll current _) (session.apply_command operation)).trans next

/-- After every history of a trail, refused operations included, its parts agree. Each variable is assigned
once. The index gives exactly the entries. The table of values, which is entered and struck out variable by
variable, lists the entries' variables with their values in trail order, and looking a variable up in it
gives its value. Level starts never decrease and never pass the end. An entry knows its position, and its
level counts the level starts at or before it, so levels never decrease. An operation is refused when the
trail holds the opposite literal or the level is negative, and then nothing changes. -/
theorem trail_represented (formula : Formula) (strategy : Strategy) (scheme : Propagation)
    (operations : List Trail.Operation) :
    let session := (start formula strategy scheme).applyAll (operations.map Trail.Operation.command)
    let trail := session.trail
    trail = Trail.empty.performAll operations ∧
    (trail.entries.toList.map Entry.var).Nodup ∧
    (∀ var entry, trail.byVar[var]? = some entry ↔ entry ∈ trail.entries ∧ entry.var = var) ∧
    (∃ table, Trail.empty.tabulate .empty operations = some table ∧ table = trail.assignment ∧
      table.pairs = trail.entries.toList.map (fun entry => (entry.literal.var, !entry.literal.negated)) ∧
      table.get? = trail.value) ∧
    trail.levelStarts.toList.Pairwise (· ≤ ·) ∧ (∀ start ∈ trail.levelStarts, start ≤ trail.size) ∧
    (∀ (position : Nat) (entry : Entry), trail.entries[position]? = some entry →
      entry.index = position ∧ entry.level = trail.levelStarts.toList.countP (· ≤ position)) ∧
    (trail.entries.toList.Pairwise fun left right => left.level ≤ right.level) ∧
    ∀ operation fault,
      ((session.apply operation.command).2 = .error fault ↔ trail.Refuses operation fault) ∧
      (trail.Refuses operation fault → (session.apply operation.command).1 = session ∧
        trail.retable trail.assignment operation = some trail.assignment) := by
  intro session trail
  have shape : session = { start formula strategy scheme with
      trail := Trail.empty.performAll operations } := applyAll_commands ..
  have same : trail = Trail.empty.performAll operations := congrArg Session.trail shape
  have coherent : trail.Coherent := same ▸ Trail.coherent_empty.performAll operations
  have kept : Trail.empty.tabulate .empty operations = some trail.assignment := by
    rw [same]
    exact Trail.coherent_empty.tabulate_assignment operations
  refine ⟨same, coherent.distinct, coherent.indexed,
    ⟨trail.assignment, kept, rfl, rfl, coherent.get?_assignment⟩, coherent.sorted, coherent.bounded,
    fun position entry found => ?_, ?_, fun operation fault => ?_⟩
  · have placed := coherent.placed position entry found
    have level := coherent.levelled entry (Array.mem_of_getElem? found)
    rw [placed] at level
    exact ⟨placed, level⟩
  · refine coherent.pairwise_index.imp_of_mem fun left right earlier => ?_
    exact coherent.level_mono (by simpa using left) (by simpa using right) earlier.le
  · have refused := (session.apply_command_eq_error_iff operation fault).trans
      coherent.perform_eq_error_iff
    refine ⟨refused, fun refuses => ?_⟩
    have failed := coherent.perform_eq_error_iff.2 refuses
    have table := coherent.retable_assignment operation
    rw [Trail.performAll_of_error failed] at table
    exact ⟨apply_command_of_error failed, table⟩

end Session

namespace Trail

/-- The level that an operation leads to from a level. -/
def Operation.levelAfter : Operation → Nat → Nat
  | .newLevel, level => level + 1
  | .push .., level => level
  | .undo target, level => if target < 0 then level else min target.toNat level

/-- The level after an operation depends only on the level before. -/
theorem Coherent.level_performAll_single {trail : Trail} (coherent : trail.Coherent)
    (operation : Operation) :
    (trail.performAll [operation]).level = operation.levelAfter trail.level := by
  have becomes := coherent.becomes_performAll operation
  generalize trail.performAll [operation] = next at becomes
  cases becomes with
  | opened => exact trail.level_newLevel
  | extended | held => rfl
  | refused negative => simp only [Operation.levelAfter, negative, if_true]
  | undone natural =>
    simp only [Operation.levelAfter, natural, if_false]
    exact trail.level_undoTo _

/-- The level after operations depends only on the level before. -/
theorem Coherent.level_performAll {trail : Trail} (coherent : trail.Coherent)
    (operations : List Operation) : (trail.performAll operations).level =
      operations.foldl (fun level operation => operation.levelAfter level) trail.level := by
  induction operations generalizing trail with
  | nil => rfl
  | cons operation rest ih =>
    rw [List.foldl_cons, ← coherent.level_performAll_single operation]
    exact ih (coherent.performAll [operation])

/-- The later trail has grown out of the earlier one, above a level that was opened at its end. -/
structure GrownFrom (later trail : Trail) : Prop where
  /-- The entries of the earlier trail are still the first ones. -/
  entries : trail.entries.toList <+: later.entries.toList
  /-- Its level starts, and the start of the level opened at its end, are still the first ones. -/
  levelStarts : trail.levelStarts.toList ++ [trail.size] <+: later.levelStarts.toList

/-- A trail with a level just opened has grown out of the trail before. -/
theorem grownFrom_newLevel (trail : Trail) : trail.newLevel.GrownFrom trail := by
  refine ⟨List.prefix_refl _, ?_⟩
  simp only [newLevel, Array.toList_push]
  exact List.prefix_refl _

namespace GrownFrom

variable {later trail : Trail} (grown : later.GrownFrom trail)
include grown

/-- The opened level starts where the earlier trail ended. -/
theorem start : later.levelStarts[trail.level]? = some trail.size := by
  have place := List.prefix_iff_getElem?.1 grown.levelStarts trail.level (by simp [level])
  simpa [level] using place

/-- An operation that does not leave the opened level keeps what is below it. Levels start one after
another, so the cut falls past the end of the earlier trail. -/
theorem perform (coherent : later.Coherent) {operation : Operation}
    (above : trail.level < (later.performAll [operation]).level) :
    (later.performAll [operation]).GrownFrom trail := by
  have becomes := coherent.becomes_performAll operation
  generalize later.performAll [operation] = next at becomes above
  cases becomes with
  | opened =>
    refine ⟨grown.entries, grown.levelStarts.trans ?_⟩
    simp [Trail.newLevel]
  | extended free =>
    refine ⟨grown.entries.trans ?_, grown.levelStarts⟩
    simp [Trail.extend]
  | held | refused => exact grown
  | @undone level natural =>
    rw [level_undoTo] at above
    by_cases below : level.toNat < later.level
    · obtain ⟨start, found⟩ := exists_start below
      have late : trail.size ≤ start := by
        have sorted := List.pairwise_iff_getElem.1 coherent.sorted
        obtain ⟨early, first⟩ := Array.getElem?_eq_some_iff.1 grown.start
        obtain ⟨bound, second⟩ := Array.getElem?_eq_some_iff.1 found
        have ordered := sorted trail.level level.toNat (by simpa using early) (by simpa using bound)
          (by omega)
        rw [Array.getElem_toList, Array.getElem_toList, first, second] at ordered
        exact ordered
      refine ⟨?_, ?_⟩
      · rw [entries_undoTo found, toList_take, List.prefix_take_iff]
        exact ⟨grown.entries, by simpa [size] using late⟩
      · rw [levelStarts_undoTo found, toList_take, List.prefix_take_iff]
        refine ⟨grown.levelStarts, ?_⟩
        have reached : trail.level < level.toNat := by omega
        simpa [Trail.level] using reached
    · rw [undoTo_of_le (by omega)]
      exact grown

/-- Operations that never leave the opened level keep what is below it. -/
theorem performAll (coherent : later.Coherent) {operations : List Operation}
    (above : ∀ front, front <+: operations → trail.level < (later.performAll front).level) :
    (later.performAll operations).GrownFrom trail := by
  induction operations generalizing later with
  | nil => exact grown
  | cons operation rest ih =>
    have first := grown.perform coherent (above [operation] (by simp))
    refine ih first (coherent.performAll [operation]) fun front inside => ?_
    exact above (operation :: front) (List.cons_prefix_cons.2 ⟨rfl, inside⟩)

/-- Undoing to where the level was opened brings the earlier trail back and gives the later entries. -/
theorem undo (coherent : later.Coherent) (earlier : trail.Coherent) :
    ∃ restored removed, later.undo trail.level = .ok (restored, removed) ∧
      restored.entries = trail.entries ∧ restored.levelStarts = trail.levelStarts ∧
      restored.byVar.Equiv trail.byVar ∧
      later.entries.toList = trail.entries.toList ++ removed.reverse := by
  have found := grown.start
  have length : trail.entries.toList.length = trail.size := by simp [size]
  have levels : trail.levelStarts.toList.length = trail.level := by simp [level]
  have entries : (later.undoTo trail.level).1.entries = trail.entries := by
    rw [entries_undoTo found, ← Array.toList_inj, toList_take, ← length]
    exact (List.prefix_iff_eq_take.1 grown.entries).symm
  refine ⟨(later.undoTo trail.level).1, (later.undoTo trail.level).2,
    coherent.undo_natCast trail.level, entries, ?_, ?_, ?_⟩
  · rw [levelStarts_undoTo found, ← Array.toList_inj, toList_take, ← levels]
    exact (List.prefix_iff_eq_take.1 ((List.prefix_append _ _).trans grown.levelStarts)).symm
  · refine Std.HashMap.Equiv.of_forall_getElem?_eq fun var => Option.ext fun entry => ?_
    have before := earlier.indexed var entry
    have after := (coherent.undoTo trail.level).indexed var entry
    rw [entries] at after
    exact after.trans before.symm
  · simp only [undoTo, found, List.reverse_reverse]
    conv_lhs => rw [← List.take_append_drop trail.size later.entries.toList]
    rw [← length, ← List.prefix_iff_eq_take.1 grown.entries]

end GrownFrom

/-- Undoing restores an exact snapshot. Take any history of a trail, open a level, and let anything follow
that never leads back to the level before or below it: going back to that level then gives the trail as it
was before the opening, with the same entries, the same level starts, the same index and the same
assignment, and the table kept beside the trail is the one of that moment. What is handed out are the
entries that came since, latest first. -/
theorem undo_restores (before operations : List Operation)
    (above : ∀ front, front <+: operations →
      (empty.performAll before).level < (empty.performAll (before ++ .newLevel :: front)).level) :
    let trail := empty.performAll before
    let later := empty.performAll (before ++ .newLevel :: operations)
    ∃ restored removed, later.undo trail.level = .ok (restored, removed) ∧
      restored.entries = trail.entries ∧ restored.levelStarts = trail.levelStarts ∧
      restored.byVar.Equiv trail.byVar ∧ restored.assignment = trail.assignment ∧
      (∃ table, empty.tabulate .empty before = some table ∧
        empty.tabulate .empty (before ++ .newLevel :: operations ++ [.undo trail.level]) = some table) ∧
      later.entries.toList = trail.entries.toList ++ removed.reverse := by
  intro trail later
  have continued : ∀ front, empty.performAll (before ++ .newLevel :: front) =
      trail.newLevel.performAll front := fun front => empty.performAll_append before (.newLevel :: front)
  have coherent : trail.Coherent := coherent_empty.performAll before
  have reached : later.Coherent := coherent_empty.performAll _
  have grown : later.GrownFrom trail := by
    rw [show later = trail.newLevel.performAll operations from continued operations]
    refine trail.grownFrom_newLevel.performAll coherent.newLevel fun front inside => ?_
    rw [← continued front]
    exact above front inside
  obtain ⟨restored, removed, undone, entries, starts, index, handed⟩ := grown.undo reached coherent
  have assignment : restored.assignment = trail.assignment := by
    rw [assignment_eq, assignment_eq, entries]
  have last : empty.performAll (before ++ .newLevel :: operations ++ [.undo trail.level]) = restored := by
    rw [performAll_append, performAll_single, perform]
    change ((later.undo trail.level).map Prod.fst).toOption.getD later = restored
    rw [undone]
    rfl
  have table := coherent_empty.tabulate_assignment
    (before ++ .newLevel :: operations ++ [.undo trail.level])
  rw [last, assignment] at table
  exact ⟨restored, removed, undone, entries, starts, index, assignment,
    ⟨trail.assignment, coherent_empty.tabulate_assignment before, table⟩, handed⟩

/-- At level 1 the variables 1 and 2 have values. Above it a literal is pushed, one is refused, two levels
are opened and undone again, and another literal is pushed; going back to level 1 removes the two literals
that are left, the later one first. -/
theorem undo_restores_nested :
    let before : List Operation := [.push ⟨1, false⟩ none, .newLevel, .push ⟨2, true⟩ none]
    let operations : List Operation := [.push ⟨3, false⟩ none, .push ⟨1, true⟩ none, .newLevel,
      .newLevel, .push ⟨4, false⟩ none, .undo 2, .undo 9, .push ⟨5, false⟩ none]
    (∀ front, front <+: operations →
      (empty.performAll before).level < (empty.performAll (before ++ .newLevel :: front)).level) ∧
    ∃ restored removed,
      (empty.performAll (before ++ .newLevel :: operations)).undo 1 = .ok (restored, removed) ∧
      restored.assignment.pairs = [(1, true), (2, false)] ∧
      removed.map Entry.literal = [⟨5, false⟩, ⟨3, false⟩] := by
  intro before operations
  have level : (empty.performAll before).level = 1 := coherent_empty.level_performAll _
  have above : ∀ front, front <+: operations →
      (empty.performAll before).level < (empty.performAll (before ++ .newLevel :: front)).level := by
    have levels : ∀ front ∈ operations.inits,
        1 < front.foldl (fun level operation => Operation.levelAfter operation level) 2 := by decide
    intro front inside
    rw [level, coherent_empty.level_performAll, List.foldl_append,
      ← coherent_empty.level_performAll, level]
    exact levels front ((List.mem_inits ..).2 inside)
  obtain ⟨restored, removed, undone, _, _, _, assignment, _, handed⟩ :=
    undo_restores before operations above
  rw [level] at undone
  refine ⟨above, restored, removed, undone, ?_, ?_⟩
  · rw [assignment]
    cbv
  · have literals := congrArg (List.map Entry.literal) handed
    have later : (empty.performAll (before ++ .newLevel :: operations)).entries.toList.map Entry.literal =
        [⟨1, false⟩, ⟨2, true⟩, ⟨3, false⟩, ⟨5, false⟩] := by cbv
    have earlier : (empty.performAll before).entries.toList.map Entry.literal =
        [⟨1, false⟩, ⟨2, true⟩] := by cbv
    rw [later, List.map_append, earlier, List.map_reverse] at literals
    have reversed : [⟨3, false⟩, ⟨5, false⟩] = (removed.map Entry.literal).reverse := by
      simpa using literals
    rw [← List.reverse_reverse (removed.map Entry.literal), ← reversed]
    rfl

end Trail

end Clausal
