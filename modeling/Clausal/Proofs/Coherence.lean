import Mathlib
import Clausal.Proofs.Standing
import Clausal.Trail

/-!
# Coherent trails

A trail keeps its entries, an index by variable and the places where its levels start. These parts
belong together: the index holds exactly the entries, each variable occurs once, an entry knows its
position, and its level is the number of levels that start at or before it. Opening a level, pushing
a literal and undoing keep all of this, in whatever order they come.

Undoing to a level leaves exactly the entries of that level and below. What a trail looked like when
a level was the current one is therefore read from the trail itself, by the levels of its entries.
-/

namespace Clausal

/-- An entry that denies a literal assigns its variable. -/
theorem Entry.var_of_denies {entry : Entry} {literal : Literal}
    (denies : entry.literal = literal.negate) : entry.var = literal.var := by
  rw [Entry.var, denies, Literal.var_negate]

/-- In a sorted list an element is at most a bound exactly when it is among the counted ones. -/
theorem le_iff_lt_countP {starts : List Nat} (sorted : starts.Pairwise (· ≤ ·)) {place start : Nat}
    (found : starts[place]? = some start) (bound : Nat) :
    start ≤ bound ↔ place < starts.countP (· ≤ bound) := by
  induction starts generalizing place with
  | nil => simp at found
  | cons head rest ih =>
    obtain ⟨least, tail⟩ := List.pairwise_cons.1 sorted
    by_cases low : head ≤ bound
    · rw [List.countP_cons_of_pos (by simpa using low)]
      cases place with
      | zero =>
        have same : head = start := by simpa using found
        rw [← same]
        simp [low]
      | succ place =>
        rw [ih tail (by simpa using found)]
        omega
    · have above : ∀ other ∈ rest, ¬other ≤ bound := by
        intro other member
        have larger := least other member
        omega
      have none : rest.countP (· ≤ bound) = 0 := by
        rw [List.countP_eq_zero]
        intro other member
        simpa using above other member
      rw [List.countP_cons_of_neg (by simpa using low), none]
      cases place with
      | zero =>
        have same : head = start := by simpa using found
        rw [← same]
        simp only [Nat.lt_irrefl, iff_false]
        exact low
      | succ place =>
        have member : start ∈ rest := List.mem_of_getElem? (by simpa using found)
        simp only [Nat.not_lt_zero, iff_false]
        exact above start member

namespace Trail

/-- The parts of the trail agree with each other. -/
structure Coherent (trail : Trail) : Prop where
  /-- Each variable is assigned once. -/
  distinct : (trail.entries.toList.map Entry.var).Nodup
  /-- The index holds exactly the entries. -/
  indexed : ∀ var entry, trail.entryOf? var = some entry ↔ entry ∈ trail.entries ∧ entry.var = var
  /-- Each entry knows its position. -/
  placed : ∀ (position : Nat) (entry : Entry), trail.entries[position]? = some entry →
    entry.index = position
  /-- Levels start one after another. -/
  sorted : trail.levelStarts.toList.Pairwise (· ≤ ·)
  /-- No level starts past the end. -/
  bounded : ∀ start ∈ trail.levelStarts, start ≤ trail.size
  /-- The level of an entry counts the levels that start at or before it. -/
  levelled : ∀ entry ∈ trail.entries,
    entry.level = trail.levelStarts.toList.countP (· ≤ entry.index)

namespace Coherent

variable {trail : Trail} (coherent : trail.Coherent)
include coherent

/-- An entry is found at its position. -/
theorem getElem?_index {entry : Entry} (member : entry ∈ trail.entries) :
    trail.entries[entry.index]? = some entry := by
  obtain ⟨position, found⟩ := Array.mem_iff_getElem?.1 member
  rw [coherent.placed position entry found]
  exact found

/-- The position of an entry is on the trail. -/
theorem index_lt {entry : Entry} (member : entry ∈ trail.entries) : entry.index < trail.size :=
  (Array.getElem?_eq_some_iff.1 (coherent.getElem?_index member)).1

/-- Entries at one position are equal. -/
theorem eq_of_index {left right : Entry} (leftMember : left ∈ trail.entries)
    (rightMember : right ∈ trail.entries) (same : left.index = right.index) : left = right := by
  have first := coherent.getElem?_index leftMember
  rw [same, coherent.getElem?_index rightMember] at first
  exact (Option.some.inj first).symm

/-- Entries of one variable are equal. -/
theorem eq_of_var {left right : Entry} (leftMember : left ∈ trail.entries)
    (rightMember : right ∈ trail.entries) (same : left.var = right.var) : left = right := by
  have first := (coherent.indexed right.var left).2 ⟨leftMember, same⟩
  rw [(coherent.indexed right.var right).2 ⟨rightMember, rfl⟩] at first
  exact (Option.some.inj first).symm

/-- The entry of a literal's variable is the one that denies the literal, if there is one. -/
theorem eq_of_denies {entry cause : Entry} (member : entry ∈ trail.entries)
    (present : cause ∈ trail.entries) {literal : Literal} (named : entry.var = literal.var)
    (denies : cause.literal = literal.negate) : entry = cause :=
  coherent.eq_of_var member present (named.trans (Entry.var_of_denies denies).symm)

/-- The index gives an entry for its own variable. -/
theorem entryOf?_var {entry : Entry} (member : entry ∈ trail.entries) :
    trail.entryOf? entry.var = some entry :=
  (coherent.indexed entry.var entry).2 ⟨member, rfl⟩

/-- No entry is above the current level. -/
theorem level_le {entry : Entry} (member : entry ∈ trail.entries) : entry.level ≤ trail.level := by
  rw [coherent.levelled entry member]
  exact List.countP_le_length

/-- Levels never decrease along the trail. -/
theorem level_mono {left right : Entry} (leftMember : left ∈ trail.entries)
    (rightMember : right ∈ trail.entries) (earlier : left.index ≤ right.index) :
    left.level ≤ right.level := by
  rw [coherent.levelled left leftMember, coherent.levelled right rightMember]
  apply List.countP_mono_left
  intro start _ low
  have atMost : start ≤ left.index := by simpa using low
  simpa using atMost.trans earlier

/-- An entry is above a level exactly when it stands at or past the end of that level. -/
theorem level_le_iff {entry : Entry} (member : entry ∈ trail.entries) {level start : Nat}
    (found : trail.levelStarts[level]? = some start) :
    entry.level ≤ level ↔ entry.index < start := by
  have place : trail.levelStarts.toList[level]? = some start := by simpa using found
  have counted := le_iff_lt_countP coherent.sorted place entry.index
  rw [← coherent.levelled entry member] at counted
  omega

/-- A literal is true exactly when the trail holds it. -/
theorem valueOf_eq_true_iff (literal : Literal) :
    trail.valueOf literal = some true ↔ ∃ entry ∈ trail.entries, entry.literal = literal := by
  unfold valueOf
  rw [Literal.value_eq_true_iff]
  unfold value
  rw [Option.map_eq_some_iff]
  constructor
  · rintro ⟨entry, held, truth⟩
    obtain ⟨member, same⟩ := (coherent.indexed ..).1 held
    refine ⟨entry, member, ?_⟩
    have named : entry.literal.var = literal.var := same
    rcases Literal.eq_or_eq_negate named with equal | opposite
    · exact equal
    · simp [Entry.truth, opposite, Literal.negate] at truth
  · rintro ⟨entry, member, same⟩
    refine ⟨entry, ?_, by rw [Entry.truth, same]⟩
    rw [← same]
    exact coherent.entryOf?_var member

/-- A literal is false exactly when the trail holds its negation. -/
theorem valueOf_eq_false_iff (literal : Literal) :
    trail.valueOf literal = some false ↔
      ∃ entry ∈ trail.entries, entry.literal = literal.negate := by
  rw [← coherent.valueOf_eq_true_iff, valueOf, valueOf, Literal.value_negate_eq_true_iff]

/-- A variable has no value exactly when no entry assigns it. -/
theorem value_eq_none_iff (var : Int) :
    trail.value var = none ↔ ∀ entry ∈ trail.entries, entry.var ≠ var := by
  unfold value
  rw [Option.map_eq_none_iff]
  constructor
  · intro absent entry member same
    rw [← same, coherent.entryOf?_var member] at absent
    simp at absent
  · intro fresh
    cases held : trail.entryOf? var with
    | none => rfl
    | some entry =>
      obtain ⟨member, same⟩ := (coherent.indexed ..).1 held
      exact absurd same (fresh entry member)

/-- A literal that an entry denies has the level of that entry. -/
theorem levelOf_of_denies {cause : Entry} (present : cause ∈ trail.entries) {literal : Literal}
    (denies : cause.literal = literal.negate) : trail.levelOf literal.var = .ok cause.level := by
  have held := (coherent.indexed literal.var cause).2 ⟨present, Entry.var_of_denies denies⟩
  simp only [levelOf, held]

/-- The entries stand in the order of their positions. -/
theorem pairwise_index :
    trail.entries.toList.Pairwise fun left right => left.index < right.index := by
  rw [List.pairwise_iff_getElem]
  intro early late earlyBound lateBound before
  have first := coherent.placed early _ (Array.getElem?_eq_getElem (by simpa using earlyBound))
  have second := coherent.placed late _ (Array.getElem?_eq_getElem (by simpa using lateBound))
  simp only [Array.getElem_toList]
  omega

end Coherent

/-- The trail without entries is coherent. -/
theorem coherent_empty : Coherent empty := by
  constructor <;> simp [empty, entryOf?, size]

/-- Opening a level leads one level deeper. -/
theorem level_newLevel (trail : Trail) : trail.newLevel.level = trail.level + 1 := by
  simp [level, newLevel]

/-- Opening a level keeps a trail coherent. -/
theorem Coherent.newLevel {trail : Trail} (coherent : trail.Coherent) : trail.newLevel.Coherent := by
  refine ⟨coherent.distinct, coherent.indexed, coherent.placed, ?_, ?_, ?_⟩
  · simp only [Trail.newLevel, Array.toList_push, List.pairwise_append, List.pairwise_singleton,
      List.mem_singleton, forall_eq, true_and]
    exact ⟨coherent.sorted, fun start member => coherent.bounded start (by simpa using member)⟩
  · intro start member
    rcases Array.mem_push.1 member with old | new
    · exact coherent.bounded start old
    · exact new.le
  · intro entry member
    have inside := coherent.index_lt member
    have past : ¬trail.entries.size ≤ entry.index := by
      simp only [size] at inside
      omega
    simp only [Trail.newLevel, Array.toList_push, List.countP_append, List.countP_singleton,
      decide_eq_true_eq, past, if_false, Nat.add_zero]
    exact coherent.levelled entry member

/-- The entries after an extension. -/
theorem mem_extend {trail : Trail} {literal : Literal} {reason : Option Clause} {entry : Entry} :
    entry ∈ (trail.extend literal reason).entries ↔
      entry ∈ trail.entries ∨ entry = ⟨literal, trail.level, reason, trail.size⟩ := by
  simp [extend, Array.mem_push]

/-- The index after an extension. -/
theorem entryOf?_extend (trail : Trail) (literal : Literal) (reason : Option Clause) (var : Int) :
    (trail.extend literal reason).entryOf? var =
      if literal.var = var then some ⟨literal, trail.level, reason, trail.size⟩
      else trail.entryOf? var := by
  simp [entryOf?, extend, Std.HashMap.getElem?_insert]

/-- Extending a coherent trail by a literal without a value keeps it coherent. -/
theorem Coherent.extend {trail : Trail} (coherent : trail.Coherent) {literal : Literal}
    (free : trail.value literal.var = none) (reason : Option Clause) :
    (trail.extend literal reason).Coherent := by
  have fresh := (coherent.value_eq_none_iff literal.var).1 free
  refine ⟨?_, ?_, ?_, coherent.sorted, ?_, ?_⟩
  · simp only [Trail.extend, Array.toList_push, List.map_append, List.map_cons, List.map_nil]
    rw [List.nodup_append]
    refine ⟨coherent.distinct, by simp, ?_⟩
    intro var member other single same
    obtain ⟨entry, inside, shape⟩ := List.mem_map.1 member
    rw [List.mem_singleton] at single
    exact fresh entry (by simpa using inside) (shape.trans (same.trans single))
  · intro var entry
    rw [entryOf?_extend, mem_extend]
    split
    · rename_i same
      constructor
      · intro shape
        have equal := Option.some.inj shape
        exact ⟨.inr equal.symm, by rw [← equal]; exact same⟩
      · rintro ⟨old | new, named⟩
        · exact absurd (named.trans same.symm) (fresh entry old)
        · rw [new]
    · rename_i different
      rw [coherent.indexed]
      constructor
      · rintro ⟨member, named⟩
        exact ⟨.inl member, named⟩
      · rintro ⟨old | new, named⟩
        · exact ⟨old, named⟩
        · rw [new] at named
          exact absurd named different
  · intro position entry found
    simp only [Trail.extend, Array.getElem?_push] at found
    split at found
    · rename_i last
      rw [← Option.some.inj found, last]
      rfl
    · exact coherent.placed position entry found
  · intro start member
    have low := coherent.bounded start member
    simp only [size, Trail.extend, Array.size_push] at low ⊢
    omega
  · intro entry member
    rcases mem_extend.1 member with old | new
    · exact coherent.levelled entry old
    · rw [new]
      have all : trail.levelStarts.toList.countP (· ≤ trail.size) =
          trail.levelStarts.toList.length := by
        rw [List.countP_eq_length]
        intro start inside
        simpa using coherent.bounded start (by simpa using inside)
      simp only [Trail.extend, all]
      simp [Trail.level]

/-- Pushing keeps a trail coherent. -/
theorem Coherent.push {trail extended : Trail} (coherent : trail.Coherent) {literal : Literal}
    {reason : Option Clause} (pushed : trail.push literal reason = .ok extended) :
    extended.Coherent := by
  rcases push_eq_ok pushed with ⟨free, shape⟩ | ⟨_, shape⟩
  · rw [shape]
    exact coherent.extend ((isAssigned_eq_false_iff ..).1 free) reason
  · rw [shape]
    exact coherent

/-- A literal without a value is pushed by an extension. -/
theorem push_eq_extend {trail : Trail} {literal : Literal} (free : trail.value literal.var = none)
    (reason : Option Clause) : trail.push literal reason = .ok (trail.extend literal reason) := by
  have absent : trail.entryOf? literal.var = none := by simpa [value] using free
  simp [push, absent]

/-- Erasing the variables of some entries leaves the others. -/
theorem getElem?_foldl_erase (index : Std.HashMap Int Entry) (removed : List Entry) (var : Int) :
    (removed.foldl (fun index entry => index.erase entry.var) index)[var]? =
      if var ∈ removed.map Entry.var then none else index[var]? := by
  induction removed generalizing index with
  | nil => simp
  | cons head rest ih =>
    rw [List.foldl_cons, ih, Std.HashMap.getElem?_erase]
    by_cases same : head.var = var
    · simp [same]
    · have other : ¬var = head.var := fun equal => same equal.symm
      simp [same, other]

/-- The front of an array, as a list. -/
theorem toList_take {α : Type} (values : Array α) (count : Nat) :
    (values.take count).toList = values.toList.take count := by
  rw [← Array.shrink_eq_take, Array.toList_shrink]

/-- The front of an array, by positions. -/
theorem getElem?_take {α : Type} (values : Array α) (count position : Nat) :
    (values.take count)[position]? = if position < count then values[position]? else none := by
  rw [← Array.getElem?_toList, toList_take, List.getElem?_take, Array.getElem?_toList]

/-- Undoing to a level that is not below the current one changes nothing. -/
theorem undoTo_of_le {trail : Trail} {level : Nat} (reached : trail.level ≤ level) :
    (trail.undoTo level).1 = trail := by
  have absent : trail.levelStarts[level]? = none := Array.getElem?_eq_none reached
  simp [undoTo, absent]

/-- A level below the current one has a start. -/
theorem exists_start {trail : Trail} {level : Nat} (below : level < trail.level) :
    ∃ start, trail.levelStarts[level]? = some start :=
  ⟨_, Array.getElem?_eq_getElem below⟩

/-- Undoing cuts the entries where the next level starts. -/
theorem entries_undoTo {trail : Trail} {level start : Nat}
    (found : trail.levelStarts[level]? = some start) :
    (trail.undoTo level).1.entries = trail.entries.take start := by
  simp [undoTo, found]

/-- Undoing forgets the levels above. -/
theorem levelStarts_undoTo {trail : Trail} {level start : Nat}
    (found : trail.levelStarts[level]? = some start) :
    (trail.undoTo level).1.levelStarts = trail.levelStarts.take level := by
  simp [undoTo, found]

/-- After undoing the trail ends where the next level started. -/
theorem Coherent.size_undoTo {trail : Trail} (coherent : trail.Coherent) {level start : Nat}
    (found : trail.levelStarts[level]? = some start) : (trail.undoTo level).1.size = start := by
  rw [size, entries_undoTo found, ← Array.length_toList, toList_take, List.length_take,
    Array.length_toList]
  exact Nat.min_eq_left (coherent.bounded start (Array.mem_of_getElem? found))

/-- Undoing leaves exactly the entries of the level and below. -/
theorem Coherent.mem_undoTo {trail : Trail} (coherent : trail.Coherent) {level : Nat}
    {entry : Entry} :
    entry ∈ (trail.undoTo level).1.entries ↔ entry ∈ trail.entries ∧ entry.level ≤ level := by
  by_cases below : level < trail.level
  · obtain ⟨start, found⟩ := exists_start below
    rw [entries_undoTo found]
    constructor
    · intro member
      obtain ⟨position, here⟩ := Array.mem_iff_getElem?.1 member
      rw [getElem?_take] at here
      split at here
      · rename_i early
        have inside := Array.mem_of_getElem? here
        refine ⟨inside, (coherent.level_le_iff inside found).2 ?_⟩
        rw [coherent.placed position entry here]
        exact early
      · simp at here
    · rintro ⟨member, low⟩
      have early := (coherent.level_le_iff member found).1 low
      apply Array.mem_of_getElem? (i := entry.index)
      rw [getElem?_take, if_pos early]
      exact coherent.getElem?_index member
  · rw [undoTo_of_le (by omega)]
    constructor
    · intro member
      have low := coherent.level_le member
      exact ⟨member, by omega⟩
    · exact fun both => both.1

/-- After undoing a variable has its entry if that entry is not above the level. -/
theorem Coherent.entryOf?_undoTo {trail : Trail} (coherent : trail.Coherent) (level : Nat)
    (var : Int) :
    (trail.undoTo level).1.entryOf? var =
      (trail.entryOf? var).filter fun entry => entry.level ≤ level := by
  by_cases below : level < trail.level
  · obtain ⟨start, found⟩ := exists_start below
    have index : (trail.undoTo level).1.entryOf? var =
        if var ∈ (trail.entries.toList.drop start).reverse.map Entry.var then none
        else trail.entryOf? var := by
      simp only [undoTo, found, entryOf?]
      exact getElem?_foldl_erase ..
    rw [index]
    split
    · rename_i gone
      obtain ⟨entry, dropped, named⟩ := List.mem_map.1 gone
      obtain ⟨offset, here⟩ := List.mem_iff_getElem?.1 (List.mem_reverse.1 dropped)
      rw [List.getElem?_drop, Array.getElem?_toList] at here
      have member := Array.mem_of_getElem? here
      have late := coherent.placed _ entry here
      have high : ¬entry.level ≤ level := by
        rw [coherent.level_le_iff member found]
        omega
      rw [← named, coherent.entryOf?_var member, Option.filter_some_neg (by simpa using high)]
    · rename_i stays
      cases held : trail.entryOf? var with
      | none => rfl
      | some entry =>
        obtain ⟨member, named⟩ := (coherent.indexed ..).1 held
        have low : entry.level ≤ level := by
          rw [coherent.level_le_iff member found]
          by_contra late
          apply stays
          refine List.mem_map.2 ⟨entry, List.mem_reverse.2 ?_, named⟩
          apply List.mem_of_getElem? (i := entry.index - start)
          rw [List.getElem?_drop, Array.getElem?_toList,
            show start + (entry.index - start) = entry.index by omega]
          exact coherent.getElem?_index member
        rw [Option.filter_some_pos (by simpa using low)]
  · rw [undoTo_of_le (by omega)]
    cases held : trail.entryOf? var with
    | none => rfl
    | some entry =>
      have low := coherent.level_le ((coherent.indexed ..).1 held).1
      have bound : entry.level ≤ level := by omega
      rw [Option.filter_some_pos (by simpa using bound)]

/-- The level after undoing. -/
theorem level_undoTo (trail : Trail) (level : Nat) :
    (trail.undoTo level).1.level = min level trail.level := by
  by_cases below : level < trail.level
  · obtain ⟨start, found⟩ := exists_start below
    simp [undoTo, found, Trail.level]
  · rw [undoTo_of_le (by omega)]
    omega

/-- Undoing keeps a trail coherent. Past the cut every level starts after the entry, so the cut changes no
count of levels. -/
theorem Coherent.undoTo {trail : Trail} (coherent : trail.Coherent) (level : Nat) :
    (trail.undoTo level).1.Coherent := by
  by_cases below : level < trail.level
  · obtain ⟨start, found⟩ := exists_start below
    have entries := entries_undoTo found
    have starts := levelStarts_undoTo found
    have ordered : ∀ place earlier, place < level → trail.levelStarts[place]? = some earlier →
        earlier ≤ start := by
      intro place earlier before here
      have sorted := List.pairwise_iff_getElem.1 coherent.sorted
      obtain ⟨bound, shape⟩ := Array.getElem?_eq_some_iff.1 found
      obtain ⟨smaller, early⟩ := Array.getElem?_eq_some_iff.1 here
      have step := sorted place level (by simpa using smaller) (by simpa using bound) before
      simp only [Array.getElem_toList] at step
      rw [shape, early] at step
      exact step
    refine ⟨?_, ?_, ?_, ?_, ?_, ?_⟩
    · rw [entries, toList_take, List.map_take]
      exact coherent.distinct.sublist (List.take_sublist ..)
    · intro var entry
      rw [coherent.entryOf?_undoTo, coherent.mem_undoTo, Option.filter_eq_some_iff,
        coherent.indexed]
      simp only [decide_eq_true_eq]
      tauto
    · intro position entry here
      rw [entries, getElem?_take] at here
      split at here
      · exact coherent.placed position entry here
      · simp at here
    · rw [starts, toList_take]
      exact coherent.sorted.sublist (List.take_sublist ..)
    · intro earlier member
      rw [starts] at member
      obtain ⟨place, here⟩ := Array.mem_iff_getElem?.1 member
      rw [getElem?_take] at here
      split at here
      · rename_i before
        have low := ordered place earlier before here
        rw [coherent.size_undoTo found]
        exact low
      · simp at here
    · intro entry member
      obtain ⟨present, low⟩ := coherent.mem_undoTo.1 member
      rw [coherent.levelled entry present, starts, toList_take]
      have whole := List.take_append_drop level trail.levelStarts.toList
      have late : (trail.levelStarts.toList.drop level).countP (· ≤ entry.index) = 0 := by
        rw [List.countP_eq_zero]
        intro later dropped
        obtain ⟨offset, here⟩ := List.mem_iff_getElem?.1 dropped
        rw [List.getElem?_drop] at here
        have counted := le_iff_lt_countP coherent.sorted here entry.index
        rw [← coherent.levelled entry present] at counted
        have high : ¬later ≤ entry.index := by omega
        simpa using high
      conv_lhs => rw [← whole, List.countP_append, late]
      omega
  · rw [undoTo_of_le (by omega)]
    exact coherent

/-- Entries of different variables that an index holds can be taken out of it. -/
theorem strike_eq_ok {entries : List Entry} {index : Std.HashMap Int Entry}
    (distinct : (entries.map Entry.var).Nodup)
    (held : ∀ entry ∈ entries, index.contains entry.var = true) :
    strike entries index = .ok (entries.foldl (fun index entry => index.erase entry.var) index) := by
  induction entries generalizing index with
  | nil => rfl
  | cons entry rest ih =>
    rw [List.map_cons, List.nodup_cons] at distinct
    rw [strike, if_pos (held entry List.mem_cons_self), List.foldl_cons]
    apply ih distinct.2
    intro other member
    have different : entry.var ≠ other.var := fun same =>
      distinct.1 (same ▸ List.mem_map_of_mem member)
    rw [Std.HashMap.contains_erase, held other (List.mem_cons_of_mem _ member), Bool.and_true]
    simpa using different

/-- Going back to a level that is not negative is never refused. -/
theorem Coherent.undo_eq_ok {trail : Trail} (coherent : trail.Coherent) {level : Int}
    (natural : ¬level < 0) : trail.undo level = .ok (trail.undoTo level.toNat) := by
  rw [undo, Trail.undoTo, if_neg natural]
  cases trail.levelStarts[level.toNat]? with
  | none => rfl
  | some start =>
    have distinct : ((trail.entries.toList.drop start).reverse.map Entry.var).Nodup := by
      rw [List.map_reverse, List.nodup_reverse]
      exact coherent.distinct.sublist ((List.drop_sublist start _).map Entry.var)
    have held : ∀ entry ∈ (trail.entries.toList.drop start).reverse,
        trail.byVar.contains entry.var = true := by
      intro entry member
      have present : entry ∈ trail.entries :=
        Array.mem_def.2 (List.mem_of_mem_drop (List.mem_reverse.1 member))
      have found : trail.byVar[entry.var]? = some entry :=
        (coherent.indexed entry.var entry).2 ⟨present, rfl⟩
      rw [Std.HashMap.contains_eq_isSome_getElem?, found, Option.isSome_some]
    show (strike _ trail.byVar).map _ = _
    rw [strike_eq_ok distinct held]
    rfl

/-- A natural number is never refused as a level. -/
theorem Coherent.undo_natCast {trail : Trail} (coherent : trail.Coherent) (level : Nat) :
    trail.undo (level : Int) = .ok (trail.undoTo level) :=
  coherent.undo_eq_ok (Int.not_lt.2 (Int.natCast_nonneg level))

/-- What can be done to a trail by hand, in any order and with any reasons. -/
inductive Operation where
  /-- Opens a decision level. -/
  | newLevel
  /-- Assigns a literal with a reason or without. -/
  | push (literal : Literal) (reason : Option Clause)
  /-- Goes back to the end of a level. -/
  | undo (level : Int)

/-- The trail after an operation, unless it is refused. -/
def perform (trail : Trail) : Operation → Except Fault Trail
  | .newLevel => .ok trail.newLevel
  | .push literal reason => trail.push literal reason
  | .undo level => (trail.undo level).map Prod.fst

/-- Carries out operations one after another; a refused one leaves the trail as it is. -/
def performAll (trail : Trail) (operations : List Operation) : Trail :=
  operations.foldl (fun current operation => (current.perform operation).toOption.getD current) trail

/-- An operation that is not refused keeps a trail coherent. -/
theorem Coherent.perform {trail next : Trail} (coherent : trail.Coherent) {operation : Operation}
    (performed : trail.perform operation = .ok next) : next.Coherent := by
  cases operation with
  | newLevel =>
    cases performed
    exact coherent.newLevel
  | push literal reason => exact coherent.push performed
  | undo level =>
    by_cases negative : level < 0
    · simp only [Trail.perform, undo, if_pos negative] at performed
      cases performed
    · simp only [Trail.perform, coherent.undo_eq_ok negative] at performed
      cases performed
      exact coherent.undoTo _

/-- Operations, refused ones included, keep a trail coherent. -/
theorem Coherent.performAll {trail : Trail} (coherent : trail.Coherent)
    (operations : List Operation) : (trail.performAll operations).Coherent := by
  induction operations generalizing trail with
  | nil => exact coherent
  | cons operation rest ih =>
    have kept : ((trail.perform operation).toOption.getD trail).Coherent := by
      cases performed : trail.perform operation with
      | error fault => exact coherent
      | ok next => exact coherent.perform performed
    exact ih kept

end Trail

end Clausal
