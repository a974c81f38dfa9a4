import Mathlib
import Clausal.Proofs.ConflictAnswers

/-!
# The first implication point

The entries of the current level form a graph. An entry is reached from the entries of the level that its
reason names, and the conflict from those that the conflict names. Every entry of the level depends on its
decision, so there are paths from the decision to the conflict; an entry that all of them lead through is
an implication point. The decision is one, and resolution stops at the latest.

It does not stop too late: a path that avoids the entry where it stops leads back over entries that have
been met behind it, so it never comes to the decision. And it does not stop too early: whenever it goes
on past an entry, another one waits before it. That one leads to the conflict over entries behind only and
depends on the decision by entries before it, which makes a path around the entry that is passed.
-/

namespace Clausal

namespace Trail

/-- The entry belongs to the current level. -/
def Current (trail : Trail) (entry : Entry) : Prop :=
  entry ∈ trail.entries ∧ entry.level = trail.level

/-- An edge of the graph of the current level leads from an entry to one whose reason names its
variable. -/
structure Implies (trail : Trail) (cause entry : Entry) : Prop where
  /-- The cause belongs to the level. -/
  source : trail.Current cause
  /-- The implied entry belongs to the level. -/
  target : trail.Current entry
  /-- No entry is its own cause. -/
  different : cause.var ≠ entry.var
  /-- The reason names the variable of the cause. -/
  named : ∃ reason, entry.reason = some reason ∧ ∃ literal ∈ reason.literals, literal.var = cause.var

/-- A path of the graph from an entry to the conflict, given by the entries that it leads through. -/
inductive Path (trail : Trail) (conflict : Clause) : Entry → List Entry → Prop
  /-- The conflict names the variable of the last entry. -/
  | last {entry : Entry} (current : trail.Current entry)
      (named : ∃ literal ∈ conflict.literals, literal.var = entry.var) :
      Path trail conflict entry [entry]
  /-- A path is lengthened by a cause of its first entry. -/
  | link {cause entry : Entry} {nodes : List Entry} (implies : trail.Implies cause entry)
      (path : Path trail conflict entry nodes) : Path trail conflict cause (cause :: nodes)

/-- Every path from the decision of the current level to the conflict leads through the entry. -/
def Separates (trail : Trail) (conflict : Clause) (point : Entry) : Prop :=
  ∀ decision, trail.Current decision → decision.isDecision = true →
    ∀ nodes, trail.Path conflict decision nodes → point ∈ nodes

/-- The entry is the implication point that stands latest on the trail. -/
structure FirstPoint (trail : Trail) (conflict : Clause) (point : Entry) : Prop where
  /-- The entry belongs to the current level. -/
  current : trail.Current point
  /-- A path leads from the decision of the level to the conflict. -/
  connected : ∃ decision, trail.Current decision ∧ decision.isDecision = true ∧
    ∃ nodes, trail.Path conflict decision nodes
  /-- Every such path leads through the entry. -/
  separates : trail.Separates conflict point
  /-- No later entry of the level has this property. -/
  latest : ∀ other, trail.Current other → point.index < other.index →
    ¬trail.Separates conflict other

variable {trail : Trail} {numVars : Nat} {Admitted : Clause → Prop} {conflict : Clause}

namespace Path

/-- A path starts with its first entry. -/
theorem mem {entry : Entry} {nodes : List Entry} (path : trail.Path conflict entry nodes) :
    entry ∈ nodes := by
  cases path with
  | last _ _ => exact List.mem_singleton_self entry
  | link _ _ => exact List.mem_cons_self

/-- A path starts at the current level. -/
theorem current {entry : Entry} {nodes : List Entry} (path : trail.Path conflict entry nodes) :
    trail.Current entry := by
  cases path with
  | last current _ => exact current
  | link implies _ => exact implies.source

end Path

namespace Grounded

/-- Causes stand before what they imply. -/
theorem index_lt_of_implies (grounded : trail.Grounded numVars Admitted) {cause entry : Entry}
    (implies : trail.Implies cause entry) : cause.index < entry.index := by
  obtain ⟨reason, forced, literal, inside, named⟩ := implies.named
  have other : literal ≠ entry.literal := by
    intro same
    apply implies.different
    rw [← named, same]
    rfl
  have supports := (grounded.supported entry implies.target.1 reason forced).2
  obtain ⟨denier, present, denies, before⟩ := supports.earlier literal inside other
  have same : cause = denier :=
    grounded.coherent.eq_of_denies implies.source.1 present named.symm denies
  rw [same]
  exact before

/-- No entry of a path stands before its first. -/
theorem index_le_of_path (grounded : trail.Grounded numVars Admitted) {entry : Entry}
    {nodes : List Entry} (path : trail.Path conflict entry nodes) :
    ∀ node ∈ nodes, entry.index ≤ node.index := by
  induction path with
  | last _ _ =>
    intro node member
    rw [List.mem_singleton.1 member]
  | link implies _ ih =>
    intro node member
    rcases List.mem_cons.1 member with same | later
    · rw [same]
    · have before := grounded.index_lt_of_implies implies
      have behind := ih node later
      omega

/-- Above level 0 an entry of the current level that is no decision has a cause there. -/
theorem exists_implies (grounded : trail.Grounded numVars Admitted) (above : 0 < trail.level)
    {entry : Entry} (current : trail.Current entry) {reason : Clause}
    (forced : entry.reason = some reason) : ∃ cause, trail.Implies cause entry := by
  obtain ⟨member, level⟩ := current
  have supports := (grounded.supported entry member reason forced).2
  obtain ⟨literal, inside, _, cause, present, denies, same⟩ := supports.sameLevel (by omega)
  have named := Entry.var_of_denies denies
  refine ⟨cause, ⟨present, same.trans level⟩, ⟨member, level⟩, fun equal => ?_,
    reason, forced, literal, inside, named.symm⟩
  have itself : cause = entry := grounded.coherent.eq_of_var present member equal
  rw [itself] at denies
  apply reason.consistent literal inside
  rw [← denies]
  exact supports.member

/-- A path to the conflict is lengthened back to the decision by entries that stand before it. Causes stand
earlier and earlier, so the induction is on the position of the first entry. -/
theorem exists_path_from_decision (grounded : trail.Grounded numVars Admitted)
    (above : 0 < trail.level) {entry : Entry} {nodes : List Entry}
    (path : trail.Path conflict entry nodes) :
    ∃ decision longer, trail.Current decision ∧ decision.isDecision = true ∧
      trail.Path conflict decision longer ∧
      ∀ node ∈ longer, node.index < entry.index ∨ node ∈ nodes := by
  induction place : entry.index using Nat.strong_induction_on generalizing entry nodes with
  | _ position ih =>
    cases forced : entry.reason with
    | none =>
      have decision : entry.isDecision = true := by simp [Entry.isDecision, forced]
      exact ⟨entry, nodes, path.current, decision, path, fun node member => .inr member⟩
    | some reason =>
      obtain ⟨cause, implies⟩ := grounded.exists_implies above path.current forced
      have before := grounded.index_lt_of_implies implies
      obtain ⟨decision, longer, current, opens, whole, early⟩ :=
        ih cause.index (by omega) (.link implies path) rfl
      refine ⟨decision, longer, current, opens, whole, fun node member => ?_⟩
      rcases early node member with earlier | inside
      · exact .inl (by omega)
      · rcases List.mem_cons.1 inside with same | later
        · rw [same]
          exact .inl (by omega)
        · exact .inr later

end Grounded

end Trail

namespace Analysis

variable {trail : Trail} {numVars : Nat} {Admitted : Clause → Prop} {conflict : Clause}
  {bound : Nat}

/-- The variable is named by the conflict, or by the reason of an entry from which a path leads to the
conflict over entries from the bound on. -/
def Feeds (trail : Trail) (conflict : Clause) (bound : Nat) (var : Int) : Prop :=
  (∃ literal ∈ conflict.literals, literal.var = var) ∨
    ∃ entry nodes reason, trail.Path conflict entry nodes ∧ (∀ node ∈ nodes, bound ≤ node.index) ∧
      entry.reason = some reason ∧ ∃ literal ∈ reason.literals, literal.var = var

/-- What resolution has found when it has come down to the bound. -/
structure Surveyed (trail : Trail) (conflict : Clause) (bound : Nat) (seen : List Int) : Prop where
  /-- What has been met feeds the conflict over entries that have been passed. -/
  feeds : ∀ var ∈ seen, Feeds trail conflict bound var
  /-- Around each entry that has been passed, a path leads to the conflict from an entry before it over
  entries behind it. -/
  around : ∀ entry ∈ trail.entries, bound ≤ entry.index → ∃ other nodes,
    trail.Path conflict other (other :: nodes) ∧ other.index < entry.index ∧
      ∀ node ∈ nodes, entry.index < node.index

/-- From an entry of the current level before the bound that feeds the conflict, a path leads to the
conflict over entries from the bound on. -/
theorem Feeds.path (coherent : trail.Coherent) {entry : Entry}
    (feeds : Feeds trail conflict bound entry.var) (current : trail.Current entry)
    (early : entry.index < bound) :
    ∃ nodes, trail.Path conflict entry (entry :: nodes) ∧ ∀ node ∈ nodes, bound ≤ node.index := by
  rcases feeds with named | ⟨next, nodes, reason, path, late, forced, named⟩
  · exact ⟨[], .last current named, by simp⟩
  · have behind := late next path.mem
    have different : entry.var ≠ next.var := by
      intro same
      have equal := coherent.eq_of_var current.1 path.current.1 same
      rw [equal] at early
      omega
    exact ⟨nodes, .link ⟨current, path.current, different, reason, forced, named⟩ path, late⟩

/-- What feeds the conflict over entries from a bound on does so from any lower bound. -/
theorem Feeds.mono {lower : Nat} {var : Int} (feeds : Feeds trail conflict bound var)
    (low : lower ≤ bound) : Feeds trail conflict lower var := by
  rcases feeds with named | ⟨entry, nodes, reason, path, late, rest⟩
  · exact .inl named
  · exact .inr ⟨entry, nodes, reason, path, fun node member => low.trans (late node member), rest⟩

/-- Before anything is passed, what the conflict names feeds it. -/
theorem surveyed_start (coherent : trail.Coherent) {seen : List Int}
    (begun : ∀ var, var ∈ seen ↔ ∃ literal ∈ conflict.literals, literal.var = var) :
    Surveyed trail conflict trail.size seen := by
  refine ⟨fun var met => .inl ((begun var).1 met), fun entry member late => ?_⟩
  have inside := coherent.index_lt member
  omega

/-- Resolution keeps what it has found. -/
theorem surveyed_along (coherent : trail.Coherent) (conflict : Clause) :
    KeptAlong trail (Surveyed trail conflict) := by
  intro entry member seen more passes before surveyed
  obtain ⟨other, present, level, early, waits⟩ := before
  refine ⟨fun var met => ?_, fun passed here late => ?_⟩
  · cases passes with
    | unmet _ => exact (surveyed.feeds var met).mono (by omega)
    | @resolved reason more known current forced noted =>
      rcases (noted var).1 met with old | named
      · exact (surveyed.feeds var old).mono (by omega)
      · obtain ⟨nodes, path, behind⟩ :=
          (surveyed.feeds entry.var known).path coherent ⟨member, current⟩ (by omega)
        refine .inr ⟨entry, entry :: nodes, reason, path, fun node inside => ?_, forced, named⟩
        rcases List.mem_cons.1 inside with same | later
        · rw [same]
        · have past := behind node later
          omega
  · by_cases itself : passed.index = entry.index
    · obtain ⟨nodes, path, behind⟩ :=
        (surveyed.feeds other.var waits).path coherent ⟨present, level⟩ (by omega)
      refine ⟨other, nodes, path, by omega, fun node inside => ?_⟩
      have past := behind node inside
      omega
    · exact surveyed.around passed here (by omega)

/-- A path that avoids the singled out entry leads over entries that have been met behind it. -/
theorem Singled.met_of_path {point : Entry} {resolved : Resolvent}
    (singled : Singled trail point resolved)
    (started : ∀ literal ∈ conflict.literals, literal.var ∈ resolved.seen) {entry : Entry}
    {nodes : List Entry} (path : trail.Path conflict entry nodes) (avoids : point ∉ nodes) :
    entry.var ∈ resolved.seen ∧ point.index < entry.index := by
  have behind : ∀ other, trail.Current other → other ≠ point → other.var ∈ resolved.seen →
      point.index < other.index := by
    intro other current different met
    by_contra early
    exact different (singled.single other current.1 current.2 (by omega) met)
  induction path with
  | @last entry current named =>
    obtain ⟨literal, inside, same⟩ := named
    have met : entry.var ∈ resolved.seen := by
      rw [← same]
      exact started literal inside
    have different : entry ≠ point := fun equal => avoids (by rw [equal]; exact List.mem_singleton_self _)
    exact ⟨met, behind entry current different met⟩
  | @link cause entry nodes implies path ih =>
    obtain ⟨known, late⟩ := ih fun inside => avoids (List.mem_cons_of_mem _ inside)
    obtain ⟨reason, forced, literal, inside, same⟩ := implies.named
    obtain ⟨clause, shape, seen⟩ :=
      singled.replaced entry implies.target.1 implies.target.2 late known
    obtain rfl : reason = clause := Option.some.inj (forced.symm.trans shape)
    have met : cause.var ∈ resolved.seen := by
      rw [← same]
      exact seen literal inside
    have different : cause ≠ point := fun equal => avoids (by rw [equal]; exact List.mem_cons_self)
    exact ⟨met, behind cause implies.source different met⟩

/-- Resolution singles out the first implication point. -/
theorem Singled.firstPoint (grounded : trail.Grounded numVars Admitted) (above : 0 < trail.level)
    {point : Entry} {resolved : Resolvent} (singled : Singled trail point resolved)
    (started : ∀ literal ∈ conflict.literals, literal.var ∈ resolved.seen)
    (surveyed : Surveyed trail conflict (point.index + 1) resolved.seen) :
    trail.FirstPoint conflict point := by
  have current : trail.Current point := ⟨singled.member, singled.current⟩
  refine ⟨current, ?_, fun decision opening opens nodes path => ?_, fun other here late => ?_⟩
  · obtain ⟨nodes, path, _⟩ :=
      (surveyed.feeds point.var singled.met).path grounded.coherent current (by omega)
    obtain ⟨decision, longer, opening, opens, whole, _⟩ :=
      grounded.exists_path_from_decision above path
    exact ⟨decision, opening, opens, longer, whole⟩
  · by_contra avoids
    have late := (singled.met_of_path started path avoids).2
    have undecided : decision.reason = none := by simpa [Entry.isDecision] using opens
    have first := grounded.decision_first opening.1 undecided current.1
      (by rw [opening.2, current.2])
    omega
  · obtain ⟨start, nodes, path, before, behind⟩ := surveyed.around other here.1 (by omega)
    obtain ⟨decision, longer, opening, opens, whole, early⟩ :=
      grounded.exists_path_from_decision above path
    intro separates
    have through := separates decision opening opens longer whole
    rcases early other through with earlier | inside
    · omega
    · rcases List.mem_cons.1 inside with same | later
      · rw [same] at before
        omega
      · have past := behind other later
        omega

/-- Put aside are the false literals of lower levels, facts excepted, that the conflict holds or the
reason of an entry behind the point from which a path leads to the conflict. -/
theorem Singled.mem_lower_iff (grounded : trail.Grounded numVars Admitted)
    (falsified : conflict.status trail.value = .falsified) {point : Entry} {resolved : Resolvent}
    (singled : Singled trail point resolved)
    (started : ∀ literal ∈ conflict.literals, literal.var ∈ resolved.seen)
    (surveyed : Surveyed trail conflict (point.index + 1) resolved.seen) (literal : Literal) :
    literal ∈ resolved.lower ↔ trail.valueOf literal = some false ∧
      (∃ low, 0 < low ∧ low < trail.level ∧ trail.levelOf literal.var = .ok low) ∧
      (literal ∈ conflict.literals ∨ ∃ entry, trail.Current entry ∧ point.index < entry.index ∧
        (∃ nodes, trail.Path conflict entry nodes) ∧
        ∃ reason, entry.reason = some reason ∧ literal ∈ reason.literals) := by
  have coherent := grounded.coherent
  rw [singled.aside, coherent.valueOf_eq_false_iff]
  constructor
  · rintro ⟨cause, present, denies, met, positive, below⟩
    have level := coherent.levelOf_of_denies present denies
    refine ⟨⟨cause, present, denies⟩, ⟨cause.level, positive, below, level⟩, ?_⟩
    have itself : ∀ other : Literal, other.var = cause.var → trail.valueOf other = some false →
        other = literal := by
      intro other named denied
      obtain ⟨denier, here, opposite⟩ := (coherent.valueOf_eq_false_iff other).1 denied
      rw [← coherent.eq_of_denies present here named.symm opposite, denies] at opposite
      exact (Literal.negate_inj.1 opposite).symm
    rcases surveyed.feeds cause.var met with ⟨other, inside, named⟩ |
      ⟨entry, nodes, reason, path, behind, forced, other, inside, named⟩
    · have denied := (Clause.status_eq_falsified_iff ..).1 falsified other inside
      rw [← itself other named denied]
      exact .inl inside
    · have late := behind entry path.mem
      obtain ⟨member, top⟩ := path.current
      have different : other ≠ entry.literal := by
        intro same
        rw [same] at named
        have equal := coherent.eq_of_var present member named.symm
        rw [equal, top] at below
        omega
      have denied := (grounded.denied_of_reason member forced inside different).1
      rw [← itself other named denied]
      exact .inr ⟨entry, path.current, by omega, ⟨nodes, path⟩, reason, forced, inside⟩
  · rintro ⟨⟨cause, present, denies⟩, ⟨low, positive, below, level⟩, origin⟩
    rw [coherent.levelOf_of_denies present denies] at level
    have height : cause.level = low := Except.ok.inj level
    refine ⟨cause, present, denies, ?_, by omega, by omega⟩
    rw [Entry.var_of_denies denies]
    rcases origin with inside | ⟨entry, current, late, ⟨nodes, path⟩, reason, forced, inside⟩
    · exact started literal inside
    · have avoids : point ∉ nodes := by
        intro through
        have behind := grounded.index_le_of_path path point through
        omega
      have met := (singled.met_of_path started path avoids).1
      obtain ⟨clause, shape, seen⟩ := singled.replaced entry current.1 current.2 late met
      obtain rfl : reason = clause := Option.some.inj (forced.symm.trans shape)
      exact seen literal inside

end Analysis

namespace Solver

/-- In every conflict of a search above level 0, resolution asserts the opposite of the first implication
point. The other literals that it learns are the false literals of lower levels, facts excepted, that the
conflict holds or the reason of an entry of the current level behind the point from which a path leads to
the conflict. -/
theorem firstUip_latest (configuration : Configuration) {signed : List (List Int)} {count : Int}
    {formula : Formula} (accepted : Formula.ofDimacs signed count = .ok formula) {taken : Nat}
    {solver : Solver} (ran : (fresh configuration formula).steps taken = .ok solver)
    {conflict : Clause} (conflicting : solver.phase = .conflicting conflict)
    (above : 0 < solver.trail.level) :
    ∃ point clause level,
      Analysis.ofConflict .cdcl conflict solver.trail =
        .ok (.backjump clause level point.literal.negate true) ∧
      solver.trail.FirstPoint conflict point ∧
      ∀ literal, literal ∈ clause.literals ∧ literal ≠ point.literal.negate ↔
        solver.trail.valueOf literal = some false ∧
        (∃ low, 0 < low ∧ low < solver.trail.level ∧
          solver.trail.levelOf literal.var = .ok low) ∧
        (literal ∈ conflict.literals ∨
          ∃ entry, solver.trail.Current entry ∧ point.index < entry.index ∧
            (∃ nodes, solver.trail.Path conflict entry nodes) ∧
            ∃ reason, entry.reason = some reason ∧ literal ∈ reason.literals) := by
  have invariant := invariant_of_steps accepted ran
  have grounded := invariant.grounded
  have coherent := grounded.coherent
  have falsified := (invariant.conflicting conflicting).2.1
  obtain ⟨point, resolved, clause, level, found, _, singled, shape, started, surveyed⟩ :=
    Analysis.firstUip_eq_ok grounded falsified above (invariant.conflict_current conflicting above) _
      (Analysis.surveyed_along coherent conflict) fun seen begun =>
        Analysis.surveyed_start coherent begun
  have lower := singled.mem_lower_iff grounded falsified started surveyed
  refine ⟨point, clause, level, found, singled.firstPoint grounded above started surveyed,
    fun literal => ?_⟩
  rw [← lower, shape, List.mem_cons]
  constructor
  · rintro ⟨same | aside, different⟩
    · exact absurd same different
    · exact aside
  · intro aside
    refine ⟨.inr aside, fun same => ?_⟩
    obtain ⟨cause, present, denies, _, _, below⟩ := (singled.aside literal).1 aside
    rw [same, Literal.negate_negate] at denies
    have equal : cause = point := coherent.eq_of_var present singled.member (congrArg Literal.var denies)
    rw [equal, singled.current] at below
    omega

/-- In the conflict at level 2 of a plain search that watches, resolution still asserts the opposite of the
first implication point, and learns no literal of another level than 1 besides. -/
theorem firstUip_latest_above :
    ∃ formula solver conflict point clause level,
      Formula.ofDimacs [[2, 3], [2, -3], [-2, 3], [-2, -3]] 3 = .ok formula ∧
      (fresh ⟨.plain, .ordered, .watched⟩ formula).steps 3 = .ok solver ∧
      solver.phase = .conflicting conflict ∧ solver.trail.level = 2 ∧
      Analysis.ofConflict .cdcl conflict solver.trail =
        .ok (.backjump clause level point.literal.negate true) ∧
      solver.trail.FirstPoint conflict point ∧
      ∀ literal ∈ clause.literals, literal ≠ point.literal.negate →
        solver.trail.levelOf literal.var = .ok 1 := by
  obtain ⟨formula, solver, conflict, accepted, ran, conflicting, _, forces⟩ :=
    exists_conflict_above .plain .watched
  have two : solver.trail.level = 2 := forces.level_eq
  obtain ⟨point, clause, level, found, first, others⟩ :=
    firstUip_latest _ accepted ran conflicting (by omega)
  refine ⟨formula, solver, conflict, point, clause, level, accepted, ran, conflicting, two, found,
    first, fun literal inside different => ?_⟩
  obtain ⟨_, ⟨low, positive, below, known⟩, _⟩ := (others literal).1 ⟨inside, different⟩
  have one : low = 1 := by omega
  rw [known, one]

end Solver

end Clausal
