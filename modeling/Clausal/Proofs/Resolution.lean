import Mathlib
import Clausal.Analysis
import Clausal.Proofs.Implication

/-!
# Resolution along the trail

Resolution gathers the variables of a conflict and replaces those of the current level, latest first,
by what their reasons name. The literals of lower levels are put aside, and the entries of the current
level that are still waiting are counted. The walk stops at the first entry that is the only one
waiting. It never comes past the decision of the level, since nothing of that level stands before it.

`Passes` says what the walk does at one entry, and `KeptAlong` that this keeps a property of the place and
of what has been met there. What is kept along the trail is kept by the whole walk.
-/

namespace Clausal

namespace Analysis

namespace Resolvent

/-- What has been gathered, with the entries before the bound that are still to be resolved. -/
structure Gathers (trail : Trail) (bound : Nat) (gathered : Resolvent) (waiting : List Entry) :
    Prop where
  /-- Put aside is what denies an entry met at a lower level, facts excepted. -/
  aside : ∀ literal, literal ∈ gathered.lower ↔ ∃ entry ∈ trail.entries,
    entry.literal = literal.negate ∧ entry.var ∈ gathered.seen ∧ 0 < entry.level ∧
      entry.level < trail.level
  /-- Waiting are the entries met at the current level. -/
  waits : ∀ entry, entry ∈ waiting ↔ entry ∈ trail.entries ∧ entry.index < bound ∧
    entry.level = trail.level ∧ entry.var ∈ gathered.seen
  /-- No entry waits twice. -/
  distinct : waiting.Nodup
  /-- The entries that wait are counted. -/
  counted : gathered.pending = waiting.length

/-- Each entry met at the current level from the bound on has been replaced by what its reason
names. -/
def Replaced (trail : Trail) (bound : Nat) (seen : List Int) : Prop :=
  ∀ entry ∈ trail.entries, entry.level = trail.level → bound ≤ entry.index → entry.var ∈ seen →
    ∃ reason, entry.reason = some reason ∧ ∀ literal ∈ reason.literals, literal.var ∈ seen

/-- The literal has been met, or is denied by an entry before the bound. -/
def Denied (trail : Trail) (bound : Nat) (seen : List Int) (literal : Literal) : Prop :=
  literal.var ∈ seen ∨
    ∃ cause ∈ trail.entries, cause.literal = literal.negate ∧ cause.index < bound

/-- At the start nothing is gathered. -/
theorem gathers_start (trail : Trail) (bound : Nat) : Gathers trail bound start [] := by
  refine ⟨?_, ?_, .nil, rfl⟩ <;> simp [start]

/-- Noting the variable of one more entry before the bound: the entry waits if it belongs to the
current level, and is put aside if it belongs to a lower one that is not 0. -/
theorem Gathers.note {trail : Trail} (coherent : trail.Coherent) {bound : Nat}
    {gathered next : Resolvent} {waiting waits : List Entry} {cause : Entry}
    (gathers : Gathers trail bound gathered waiting) (present : cause ∈ trail.entries)
    (early : cause.index < bound) (seen : next.seen = cause.var :: gathered.seen)
    (lower : ∀ literal, literal ∈ next.lower ↔ literal ∈ gathered.lower ∨
      (cause.literal = literal.negate ∧ 0 < cause.level ∧ cause.level < trail.level))
    (current : ∀ entry, entry ∈ waits ↔
      entry ∈ waiting ∨ (entry = cause ∧ cause.level = trail.level))
    (distinct : waits.Nodup) (counted : next.pending = waits.length) :
    Gathers trail bound next waits := by
  have met : ∀ entry ∈ trail.entries,
      (entry.var ∈ next.seen ↔ entry = cause ∨ entry.var ∈ gathered.seen) := by
    intro entry member
    rw [seen, List.mem_cons]
    constructor
    · rintro (same | old)
      · exact .inl (coherent.eq_of_var member present same)
      · exact .inr old
    · rintro (same | old)
      · exact .inl (congrArg Entry.var same)
      · exact .inr old
  refine ⟨fun literal => ?_, fun entry => ?_, distinct, counted⟩
  · rw [lower, gathers.aside]
    constructor
    · rintro (⟨entry, member, shape, old, levels⟩ | ⟨shape, levels⟩)
      · exact ⟨entry, member, shape, (met entry member).2 (.inr old), levels⟩
      · exact ⟨cause, present, shape, (met cause present).2 (.inl rfl), levels⟩
    · rintro ⟨entry, member, shape, here, levels⟩
      rcases (met entry member).1 here with rfl | old
      · exact .inr ⟨shape, levels⟩
      · exact .inl ⟨entry, member, shape, old, levels⟩
  · rw [current, gathers.waits]
    constructor
    · rintro (⟨member, before, level, old⟩ | ⟨rfl, level⟩)
      · exact ⟨member, before, level, (met entry member).2 (.inr old)⟩
      · exact ⟨present, early, level, (met entry present).2 (.inl rfl)⟩
    · rintro ⟨member, before, level, here⟩
      rcases (met entry member).1 here with rfl | old
      · exact .inr ⟨rfl, level⟩
      · exact .inl ⟨member, before, level, old⟩

/-- Taking up a denied literal succeeds and notes its variable. -/
theorem absorb_eq_ok {trail : Trail} (coherent : trail.Coherent) {bound : Nat}
    {gathered : Resolvent} {waiting : List Entry} (gathers : Gathers trail bound gathered waiting)
    {literal : Literal} (denied : Denied trail bound gathered.seen literal) :
    ∃ next waits, absorb trail trail.level gathered literal = .ok next ∧
      Gathers trail bound next waits ∧
      ∀ var, var ∈ next.seen ↔ var = literal.var ∨ var ∈ gathered.seen := by
  by_cases met : literal.var ∈ gathered.seen
  · have known : gathered.seen.contains literal.var = true := by simpa using met
    refine ⟨gathered, waiting, by simp only [absorb, known, if_true], gathers, fun var => ?_⟩
    constructor
    · exact .inr
    · rintro (same | old)
      · rw [same]
        exact met
      · exact old
  · obtain ⟨cause, present, same, early⟩ := denied.resolve_left met
    have named : cause.var = literal.var := Entry.var_of_denies same
    have held : trail.entryOf? literal.var = some cause := (coherent.indexed _ _).2 ⟨present, named⟩
    have unmet : gathered.seen.contains literal.var = false := by simpa using met
    have bounded := coherent.level_le present
    have noted : literal.var :: gathered.seen = cause.var :: gathered.seen := by rw [named]
    simp only [absorb, unmet, Bool.false_eq_true, if_false, Trail.levelOf, held]
    by_cases current : cause.level = trail.level
    · rw [if_pos current]
      have fresh : cause ∉ waiting := by
        rw [gathers.waits, named]
        tauto
      refine ⟨_, cause :: waiting, rfl, gathers.note coherent present early noted (fun other => ?_)
        (fun entry => ?_) (List.nodup_cons.2 ⟨fresh, gathers.distinct⟩) ?_, fun _ => List.mem_cons⟩
      · simp [current]
      · rw [List.mem_cons, Or.comm]
        simp [current]
      · simp [gathers.counted]
    · rw [if_neg current]
      by_cases above : 0 < cause.level
      · rw [if_pos above]
        refine ⟨_, waiting, rfl, gathers.note coherent present early noted (fun other => ?_)
          (fun entry => by simp [current]) gathers.distinct gathers.counted, fun _ => List.mem_cons⟩
        have below : cause.level < trail.level := by omega
        rw [List.mem_append, List.mem_singleton, same, Literal.negate_inj, eq_comm (a := literal)]
        simp [above, below]
      · rw [if_neg above]
        refine ⟨_, waiting, rfl, gathers.note coherent present early noted
          (fun other => by simp [above]) (fun entry => by simp [current]) gathers.distinct
          gathers.counted, fun _ => List.mem_cons⟩

/-- Taking up denied literals one by one succeeds and notes their variables. -/
theorem foldlM_absorb_eq_ok {trail : Trail} (coherent : trail.Coherent) {bound : Nat}
    {literals : List Literal} {gathered : Resolvent} {waiting : List Entry}
    (gathers : Gathers trail bound gathered waiting)
    (denied : ∀ literal ∈ literals, Denied trail bound gathered.seen literal) :
    ∃ next waits, literals.foldlM (absorb trail trail.level) gathered = .ok next ∧
      Gathers trail bound next waits ∧
      ∀ var, var ∈ next.seen ↔ var ∈ gathered.seen ∨ ∃ literal ∈ literals, literal.var = var := by
  induction literals generalizing gathered waiting with
  | nil => exact ⟨gathered, waiting, rfl, gathers, by simp⟩
  | cons literal rest ih =>
    obtain ⟨next, waits, taken, more, seen⟩ :=
      absorb_eq_ok coherent gathers (denied literal List.mem_cons_self)
    have later : ∀ other ∈ rest, Denied trail bound next.seen other := by
      intro other member
      rcases denied other (List.mem_cons_of_mem _ member) with met | early
      · exact .inl ((seen other.var).2 (.inr met))
      · exact .inr early
    obtain ⟨last, final, finished, all, noted⟩ := ih more later
    refine ⟨last, final, ?_, all, fun var => ?_⟩
    · rw [List.foldlM_cons, taken]
      exact finished
    · rw [noted, seen]
      simp only [List.mem_cons, exists_eq_or_imp]
      tauto

/-- Taking up the literals of a clause succeeds when they are denied. -/
theorem absorbAll_eq_ok {trail : Trail} (coherent : trail.Coherent) {bound : Nat} {clause : Clause}
    {gathered : Resolvent} {waiting : List Entry} (gathers : Gathers trail bound gathered waiting)
    (denied : ∀ literal ∈ clause.literals, Denied trail bound gathered.seen literal) :
    ∃ next waits, absorbAll trail trail.level gathered clause = .ok next ∧
      Gathers trail bound next waits ∧
      ∀ var, var ∈ next.seen ↔
        var ∈ gathered.seen ∨ ∃ literal ∈ clause.literals, literal.var = var :=
  foldlM_absorb_eq_ok coherent gathers denied

/-- Resolving a waiting entry at the bound takes it from those that wait. -/
theorem Gathers.resolved {trail : Trail} (coherent : trail.Coherent) {gathered : Resolvent}
    {waiting : List Entry} {entry : Entry}
    (gathers : Gathers trail (entry.index + 1) gathered waiting) (waits : entry ∈ waiting) :
    Gathers trail entry.index { gathered with pending := gathered.pending - 1 }
      (waiting.erase entry) := by
  refine ⟨gathers.aside, fun other => ?_, gathers.distinct.erase _, ?_⟩
  · rw [gathers.distinct.mem_erase_iff, gathers.waits]
    have present := ((gathers.waits entry).1 waits).1
    constructor
    · rintro ⟨different, member, early, rest⟩
      have apart : other.index ≠ entry.index :=
        fun same => different (coherent.eq_of_index member present same)
      exact ⟨member, by omega, rest⟩
    · rintro ⟨member, early, rest⟩
      refine ⟨fun same => ?_, member, by omega, rest⟩
      rw [same] at early
      omega
  · rw [List.length_erase_of_mem waits, gathers.counted]

/-- An entry at the bound that has not been met does not wait. -/
theorem Gathers.passed {trail : Trail} (coherent : trail.Coherent) {gathered : Resolvent}
    {waiting : List Entry} {entry : Entry} (present : entry ∈ trail.entries)
    (gathers : Gathers trail (entry.index + 1) gathered waiting)
    (unmet : entry.var ∉ gathered.seen) : Gathers trail entry.index gathered waiting := by
  refine ⟨gathers.aside, fun other => ?_, gathers.distinct, gathers.counted⟩
  rw [gathers.waits]
  constructor
  · rintro ⟨member, early, level, met⟩
    have apart : other.index ≠ entry.index := by
      intro same
      rw [coherent.eq_of_index member present same] at met
      exact unmet met
    exact ⟨member, by omega, level, met⟩
  · rintro ⟨member, early, rest⟩
    exact ⟨member, by omega, rest⟩

end Resolvent

/-- The entry is the only one of the current level that is left after resolving what stands behind
it. -/
structure Singled (trail : Trail) (entry : Entry) (resolved : Resolvent) : Prop where
  /-- The entry is on the trail. -/
  member : entry ∈ trail.entries
  /-- The entry belongs to the current level. -/
  current : entry.level = trail.level
  /-- The entry has been met. -/
  met : entry.var ∈ resolved.seen
  /-- Nothing else of the level has been met up to the entry. -/
  single : ∀ other ∈ trail.entries, other.level = trail.level → other.index ≤ entry.index →
    other.var ∈ resolved.seen → other = entry
  /-- Everything of the level that has been met behind the entry has been replaced. -/
  replaced : Resolvent.Replaced trail (entry.index + 1) resolved.seen
  /-- Put aside is what denies an entry met at a lower level, facts excepted. -/
  aside : ∀ literal, literal ∈ resolved.lower ↔ ∃ other ∈ trail.entries,
    other.literal = literal.negate ∧ other.var ∈ resolved.seen ∧ 0 < other.level ∧
      other.level < trail.level

/-- Once the only entry that waits is reached, it is singled out. -/
theorem singled_of_gathers {trail : Trail} {entry : Entry} {gathered : Resolvent}
    {waiting : List Entry} (gathers : Resolvent.Gathers trail (entry.index + 1) gathered waiting)
    (replaced : Resolvent.Replaced trail (entry.index + 1) gathered.seen)
    (waits : entry ∈ waiting) (last : gathered.pending ≤ 1) : Singled trail entry gathered := by
  obtain ⟨member, _, current, met⟩ := (gathers.waits entry).1 waits
  refine ⟨member, current, met, fun other present level early seen => ?_, replaced, gathers.aside⟩
  have also := (gathers.waits other).2 ⟨present, by omega, level, seen⟩
  have short : waiting.length ≤ 1 := by
    rw [← gathers.counted]
    exact last
  obtain ⟨only, shape⟩ := List.length_eq_one_iff.1 (le_antisymm short (List.length_pos_of_mem waits))
  rw [shape, List.mem_singleton] at waits also
  rw [waits, also]

/-- What the walk does at an entry with what has been met: an entry that has not been met is passed
over, and one of the current level that has been met is resolved by noting what its reason names. -/
inductive Passes (trail : Trail) (entry : Entry) (seen : List Int) : List Int → Prop
  /-- The entry has not been met. -/
  | unmet (fresh : entry.var ∉ seen) : Passes trail entry seen seen
  /-- The entry is replaced by its reason. -/
  | resolved {reason : Clause} {more : List Int} (met : entry.var ∈ seen)
      (current : entry.level = trail.level) (forced : entry.reason = some reason)
      (noted : ∀ var, var ∈ more ↔ var ∈ seen ∨ ∃ literal ∈ reason.literals, literal.var = var) :
      Passes trail entry seen more

/-- Passing an entry, while another one of the current level waits before it, keeps the property. -/
def KeptAlong (trail : Trail) (Kept : Nat → List Int → Prop) : Prop :=
  ∀ entry ∈ trail.entries, ∀ seen more, Passes trail entry seen more →
    (∃ other ∈ trail.entries, other.level = trail.level ∧ other.index < entry.index ∧
      other.var ∈ seen) →
    Kept (entry.index + 1) seen → Kept entry.index more

/-- What has been met behind a place stays replaced along the trail. A variable that only now is met stands
before the entry that is resolved. -/
theorem replaced_along {trail : Trail} {numVars : Nat} {Admitted : Clause → Prop}
    (grounded : trail.Grounded numVars Admitted) : KeptAlong trail (Resolvent.Replaced trail) := by
  have coherent := grounded.coherent
  intro entry member seen more passes _ replaced other present level late met
  by_cases itself : other.index = entry.index
  · obtain rfl := coherent.eq_of_index present member itself
    cases passes with
    | unmet fresh => exact absurd met fresh
    | @resolved reason more _ _ forced noted =>
      exact ⟨reason, forced, fun literal inside => (noted _).2 (.inr ⟨literal, inside, rfl⟩)⟩
  · cases passes with
    | unmet _ => exact replaced other present level (by omega) met
    | @resolved reason more _ _ forced noted =>
      have known : other.var ∈ seen := by
        rcases (noted other.var).1 met with old | ⟨literal, inside, named⟩
        · exact old
        · exfalso
          by_cases same : literal = entry.literal
          · rw [same] at named
            exact itself (congrArg Entry.index (coherent.eq_of_var present member named.symm))
          · obtain ⟨cause, here, denied, before⟩ :=
              (grounded.supported entry member reason forced).2.earlier literal inside same
            rw [coherent.eq_of_denies present here named.symm denied] at late
            omega
      obtain ⟨clause, shape, inside⟩ := replaced other present level (by omega) known
      exact ⟨clause, shape, fun literal named => (noted _).2 (.inl (inside literal named))⟩

/-- Resolving a met entry while others wait: it has a reason, whose literals can be taken up. What waited
before the entry waits still. The decision comes first in its level, so nothing waits before it. -/
theorem absorbAll_reason {trail : Trail} {numVars : Nat} {Admitted : Clause → Prop}
    (grounded : trail.Grounded numVars Admitted) {entry : Entry} {gathered : Resolvent}
    {waiting : List Entry} (gathers : Resolvent.Gathers trail (entry.index + 1) gathered waiting)
    (waits : entry ∈ waiting) (more : 1 < gathered.pending) :
    ∃ reason next left other, entry.reason = some reason ∧
      Resolvent.absorbAll trail trail.level { gathered with pending := gathered.pending - 1 } reason =
        .ok next ∧
      Resolvent.Gathers trail entry.index next left ∧ other ∈ left ∧ other.var ∈ gathered.seen ∧
      ∀ var, var ∈ next.seen ↔
        var ∈ gathered.seen ∨ ∃ literal ∈ reason.literals, literal.var = var := by
  have coherent := grounded.coherent
  obtain ⟨member, _, current, met⟩ := (gathers.waits entry).1 waits
  have fewer := gathers.resolved coherent waits
  obtain ⟨other, others⟩ : ∃ other, other ∈ waiting.erase entry := by
    apply List.exists_mem_of_ne_nil
    rw [← List.length_pos_iff, ← fewer.counted]
    simp only
    omega
  obtain ⟨present, early, level, seen⟩ := (fewer.waits other).1 others
  cases forced : entry.reason with
  | none =>
    have first := grounded.decision_first member forced present (by omega)
    omega
  | some reason =>
    obtain ⟨_, supports⟩ := grounded.supported entry member reason forced
    have denied : ∀ literal ∈ reason.literals,
        Resolvent.Denied trail entry.index gathered.seen literal := by
      intro literal named
      by_cases same : literal = entry.literal
      · rw [same]
        exact .inl met
      · exact .inr (supports.earlier literal named same)
    obtain ⟨next, left, taken, further, noted⟩ := Resolvent.absorbAll_eq_ok coherent fewer denied
    have still := (further.waits other).2 ⟨present, early, level, (noted _).2 (.inl seen)⟩
    exact ⟨reason, next, left, other, rfl, taken, further, still, seen, noted⟩

/-- Once a walk has come to its end, it does not go on to further entries. -/
theorem resolve_append {trail : Trail} {level : Nat} {entries : List Entry} {gathered : Resolvent}
    {found : Entry × Resolvent} (finished : resolve trail level entries gathered = .ok found)
    (further : List Entry) : resolve trail level (entries ++ further) gathered = .ok found := by
  induction entries generalizing gathered with
  | nil => simp [resolve] at finished
  | cons entry older ih =>
    rw [List.cons_append]
    unfold resolve at finished ⊢
    split at finished
    · rename_i met
      rw [if_pos met]
      split at finished
      · rename_i last
        rw [if_pos last]
        exact finished
      · rename_i more
        rw [if_neg more]
        cases forced : entry.reason with
        | none => simp [forced] at finished
        | some reason =>
          simp only [forced] at finished ⊢
          split at finished
          · simp at finished
          · exact ih finished
    · rename_i unmet
      rw [if_neg unmet]
      exact ih finished

/-- Resolution along the entries before the bound singles out an entry, and keeps what is kept along the
trail. -/
theorem resolve_eq_ok {trail : Trail} {numVars : Nat} {Admitted : Clause → Prop}
    (grounded : trail.Grounded numVars Admitted) {Kept : Nat → List Int → Prop}
    (along : KeptAlong trail Kept) {bound : Nat} (inside : bound ≤ trail.size)
    {gathered : Resolvent} {waiting : List Entry}
    (gathers : Resolvent.Gathers trail bound gathered waiting) (open_ : waiting ≠ [])
    (replaced : Resolvent.Replaced trail bound gathered.seen) (start : Kept bound gathered.seen) :
    ∃ entry resolved,
      resolve trail trail.level (trail.entries.toList.take bound).reverse gathered =
        .ok (entry, resolved) ∧
      Singled trail entry resolved ∧ Kept (entry.index + 1) resolved.seen := by
  have coherent := grounded.coherent
  induction bound generalizing gathered waiting with
  | zero =>
    obtain ⟨entry, waits⟩ := List.exists_mem_of_ne_nil waiting open_
    have early := ((gathers.waits entry).1 waits).2.1
    omega
  | succ bound ih =>
    have position : bound < trail.entries.size := inside
    have here := Array.getElem?_eq_getElem position
    generalize trail.entries[bound] = entry at here
    have member := Array.mem_of_getElem? here
    have placed : bound = entry.index := (coherent.placed bound entry here).symm
    subst placed
    have shape : (trail.entries.toList.take (entry.index + 1)).reverse =
        entry :: (trail.entries.toList.take entry.index).reverse := by
      rw [List.take_add_one, Array.getElem?_toList, here]
      simp
    rw [shape]
    unfold resolve
    by_cases met : entry.var ∈ gathered.seen
    · rw [if_pos (by simpa using met)]
      have current : entry.level = trail.level := by
        obtain ⟨other, waits⟩ := List.exists_mem_of_ne_nil waiting open_
        obtain ⟨present, early, level, _⟩ := (gathers.waits other).1 waits
        have order := coherent.level_mono present member (by omega)
        have top := coherent.level_le member
        omega
      have waits := (gathers.waits entry).2 ⟨member, by omega, current, met⟩
      by_cases last : gathered.pending ≤ 1
      · rw [if_pos last]
        exact ⟨entry, gathered, rfl, singled_of_gathers gathers replaced waits last, start⟩
      · rw [if_neg last]
        obtain ⟨reason, next, left, other, forced, taken, further, still, seen, noted⟩ :=
          absorbAll_reason grounded gathers waits (by omega)
        obtain ⟨present, early, level, _⟩ := (further.waits other).1 still
        have passes : Passes trail entry gathered.seen next.seen := .resolved met current forced noted
        have before : ∃ other ∈ trail.entries, other.level = trail.level ∧
            other.index < entry.index ∧ other.var ∈ gathered.seen :=
          ⟨other, present, level, early, seen⟩
        obtain ⟨found, resolved, finished, singled, kept⟩ := ih (by omega) further
          (List.ne_nil_of_mem still)
          (replaced_along grounded entry member _ _ passes before replaced)
          (along entry member _ _ passes before start)
        refine ⟨found, resolved, ?_, singled, kept⟩
        simp only [forced, taken]
        exact finished
    · rw [if_neg (by simpa using met)]
      have fewer := gathers.passed coherent member met
      have passes : Passes trail entry gathered.seen gathered.seen := .unmet met
      obtain ⟨other, waits⟩ := List.exists_mem_of_ne_nil waiting open_
      obtain ⟨present, early, level, seen⟩ := (fewer.waits other).1 waits
      have before : ∃ other ∈ trail.entries, other.level = trail.level ∧
          other.index < entry.index ∧ other.var ∈ gathered.seen :=
        ⟨other, present, level, early, seen⟩
      exact ih (by omega) fewer open_
        (replaced_along grounded entry member _ _ passes before replaced)
        (along entry member _ _ passes before start)

/-- The highest level of assigned literals is one of theirs, or 0. -/
theorem highestLevel_eq_ok {trail : Trail} {literals : List Literal}
    (assigned : ∀ literal ∈ literals, trail.isAssigned literal.var = true) :
    ∃ highest, highestLevel trail literals = .ok highest ∧
      (∀ literal ∈ literals, ∀ entry, trail.entryOf? literal.var = some entry →
        entry.level ≤ highest) ∧
      (0 < highest → ∃ literal ∈ literals, ∃ entry, trail.entryOf? literal.var = some entry ∧
        entry.level = highest) := by
  suffices walk : ∀ start, ∃ highest, literals.foldlM (fun highest literal =>
      (trail.levelOf literal.var).map fun level => max highest level) start = .ok highest ∧
      start ≤ highest ∧
      (∀ literal ∈ literals, ∀ entry, trail.entryOf? literal.var = some entry →
        entry.level ≤ highest) ∧
      (start < highest → ∃ literal ∈ literals, ∃ entry,
        trail.entryOf? literal.var = some entry ∧ entry.level = highest) by
    obtain ⟨highest, found, _, above, reached⟩ := walk 0
    exact ⟨highest, found, above, reached⟩
  induction literals with
  | nil => exact fun start => ⟨start, rfl, le_rfl, by simp, by simp⟩
  | cons literal rest ih =>
    intro start
    obtain ⟨entry, held⟩ := Option.isSome_iff_exists.1 (assigned literal List.mem_cons_self)
    obtain ⟨highest, found, grown, above, reached⟩ :=
      ih (fun other member => assigned other (List.mem_cons_of_mem _ member))
        (max start entry.level)
    refine ⟨highest, ?_, by omega, ?_, fun larger => ?_⟩
    · rw [List.foldlM_cons]
      simp only [Trail.levelOf, held]
      exact found
    · intro other member cause here
      rcases List.mem_cons.1 member with same | later
      · rw [same, held] at here
        rw [← Option.some.inj here]
        omega
      · exact above other later cause here
    · by_cases equal : entry.level = highest
      · exact ⟨literal, List.mem_cons_self, entry, held, equal⟩
      · have below : entry.level < highest :=
          lt_of_le_of_ne (le_trans (le_max_right ..) grown) equal
        obtain ⟨other, member, rest⟩ := reached (max_lt larger below)
        exact ⟨other, List.mem_cons_of_mem _ member, rest⟩

end Analysis

end Clausal
