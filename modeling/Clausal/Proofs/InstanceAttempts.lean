import Mathlib
import Clausal.Proofs.Correctness
import Clausal.Proofs.ExitStatus
import Clausal.Proofs.FiniteMeans
import Clausal.Proofs.FolderRuns

/-!
# Attempts at instances

What can become of an attempt at an instance, with names that are known and a clock that shows doubles: its
file is not read, its search is not waited for because no wait can be that long, the search has not ended
when the wait has, the search is refused because its timeout is past every double, or it ends with a result,
whose model satisfies the clauses if there is one. So an attempt fails exactly if its file is not read, its
verdict is not the expected one, or the timeout of its search cannot be kept.

A row of the table of results can then be made of every tally, unless a mean of its decisions or conflicts
is past every double.
-/

namespace Clausal.Benchmark

open Json (Misuse)

/-! ## Answers of the worker -/

/-- The file at a place is read. -/
def isRead (files : Files) (place : Place) : Bool :=
  (Dimacs.read files place.path).toBool

/-- What can become of an attempt at the instance at a place, if the next search has the given number. -/
inductive Answers (plan : Plan) (files : Files) (search : Nat) (place : Place) : Attempt → Prop
  /-- The file is not read. -/
  | unread {fault : Dimacs.ReadFault} (refused : Dimacs.read files place.path = .error fault) :
      Answers plan files search place (.broken fault.message)
  /-- The search cannot be waited for that long. -/
  | unwaited {problem : Dimacs.Problem} (accepted : Dimacs.read files place.path = .ok problem)
      (refused : plan.waiting search = .refused) :
      Answers plan files search place (.broken (Waiting.message plan.patience))
  /-- The search has not ended when the wait has. -/
  | hung {problem : Dimacs.Problem} (accepted : Dimacs.read files place.path = .ok problem)
      (inVain : plan.waiting search = .inVain) : Answers plan files search place .hung
  /-- The timeout is past every double. -/
  | overlong {problem : Dimacs.Problem} (accepted : Dimacs.read files place.path = .ok problem)
      (met : plan.waiting search = .met) (large : plan.timeout.isTooLarge = true) :
      Answers plan files search place (.broken Fault.secondsTooLarge.message)
  /-- The search ends, with a model of the clauses if it finds one. -/
  | finished {problem : Dimacs.Problem} {result : Result}
      (accepted : Dimacs.read files place.path = .ok problem) (met : plan.waiting search = .met)
      (small : plan.timeout.isTooLarge = false) (holds : result.modelHolds = true)
      (elapsed : ∃ seconds, result.elapsed = .real seconds) :
      Answers plan files search place (.finished result)

/-- The timeout of the search with a number cannot be kept: no wait for it can be that long, or it has ended
when it is asked for and its timeout is past every double. -/
def Plan.Overtaxes (plan : Plan) (search : Nat) : Prop :=
  plan.waiting search = .refused ∨ (plan.waiting search = .met ∧ plan.timeout.isTooLarge = true)

/-- The clock shows doubles. -/
def ShowsDoubles (time : Nat → Number) : Prop :=
  ∀ reading, ∃ double, time reading = .real double

/-- A deadline from a clock that shows doubles can be told unless the timeout is past every double. -/
theorem deadline_eq_error_iff {clock : Clock} (shows : ShowsDoubles clock.time) (timeout : Number) :
    (Budget.deadline ⟨some timeout, none⟩ clock).1 = .error .secondsTooLarge ↔
      timeout.isTooLarge = true := by
  obtain ⟨double, now⟩ := shows clock.readings
  have small : (Number.real double).isTooLarge = false := rfl
  cases large : timeout.isTooLarge <;>
    simp [Budget.deadline, Clock.read, now, Number.add?, small, large]

/-- A search under a timeout that has found something out has found a model of the clauses, if it has
found one. -/
theorem modelHolds_of_leads {clauses : List (List Int)} {count : Int} {formula : Formula}
    (formed : Formula.ofDimacs clauses count = .ok formula) (configuration : Configuration)
    {budget : Budget} {deadline : Option Number} {finished : Budget.Finished}
    (leads : Budget.Leads budget deadline (.fresh configuration formula) finished) :
    ∃ outcome, finished.result = .ok outcome ∧ modelHolds clauses outcome = true := by
  obtain ⟨taken, ran⟩ := leads.steps
  obtain ⟨outcome, found, decided, same⟩ := leads.ending.isDone_eq
  refine ⟨outcome, found, ?_⟩
  cases outcome with
  | satisfiable model =>
    have done : finished.run.solver.isDone = true := by simpa [Outcome.isSat?] using decided
    have told := same done
    rcases Solver.phase_of_isDone done with satisfied | refuted
    · obtain ⟨other, isOutcome, -, valid⟩ :=
        (Solver.search_decides configuration formed ran).1 satisfied
      rw [isOutcome] at told
      obtain rfl := Outcome.satisfiable.inj told
      exact valid
    · simp [Solver.outcome, refuted] at told
  | unsatisfiable => rfl
  | unknown reason => rfl

/-- Known names and clauses that were read make a solver. -/
theorem solverOf_eq_ok {clauses : List (List Int)} {count : Int} {formula : Formula}
    (formed : Formula.ofDimacs clauses count = .ok formula) {naming : Naming}
    {configuration : Configuration}
    (valid : Configuration.ofNames naming.variant naming.strategy naming.propagation =
      .ok configuration) :
    solverOf naming clauses count = .ok (.fresh configuration formula) := by
  simp [solverOf, formed, valid, bind, Except.bind, pure, Except.pure]

/-- An attempt at a problem that was read leaves the same clock. It is refused if its timeout is past every
double, and otherwise ends with a result. -/
theorem attemptProblem_cases {plan : Plan} {files : Files} {place : Place}
    {problem : Dimacs.Problem} (accepted : Dimacs.read files place.path = .ok problem) {search : Nat}
    (met : plan.waiting search = .met) {solver strategy : String} {configuration : Configuration}
    (valid : Configuration.ofNames solver strategy plan.propagation = .ok configuration)
    {clock : Clock} (shows : ShowsDoubles clock.time) :
    let attempted := attemptProblem ⟨solver, strategy, plan.propagation⟩
      ⟨some plan.timeout, plan.bytesBefore, plan.bytesDuring⟩ problem.clauses problem.numVars clock
    attempted.2.time = clock.time ∧
      ((∃ fault, attempted.1 = .error fault ∧
          Answers plan files search place (.broken fault.message)) ∨
        ∃ result, attempted.1 = .ok result ∧
          Answers plan files search place (.finished result)) := by
  obtain ⟨formula, formed⟩ := Dimacs.exists_formula accepted
  have named : solverOf ⟨solver, strategy, plan.propagation⟩ problem.clauses problem.numVars =
      .ok (.fresh configuration formula) := solverOf_eq_ok formed valid
  have upheld := Solver.upheld_fresh_any configuration formula
  have time := Budget.time_drive ⟨some plan.timeout, none⟩ clock.read.2 (.fresh configuration formula)
  have told := @deadline_eq_error_iff clock.read.2 shows plan.timeout
  simp only [attemptProblem, named]
  rcases Budget.drive_cases ⟨some plan.timeout, none⟩ clock.read.2 upheld with
    ⟨untold, refused, -⟩ | ⟨deadline, found, leads⟩
  · refine ⟨time, .inl ⟨.secondsTooLarge, ?_, .overlong accepted met (told.mp untold)⟩⟩
    rw [refused]
    rfl
  · have small : plan.timeout.isTooLarge = false := by
      rw [← Bool.not_eq_true, ← told, found]
      simp
    obtain ⟨outcome, result, holds⟩ := modelHolds_of_leads formed configuration leads
    obtain ⟨started, startedAt⟩ := shows clock.readings
    obtain ⟨ended, endedAt⟩ := shows (Budget.drive ⟨some plan.timeout, none⟩ clock.read.2
      (.fresh configuration formula)).run.clock.readings
    refine ⟨time, .inr ⟨_, by rw [result]; rfl, .finished accepted met small holds
      ⟨ended - started, ?_⟩⟩⟩
    simp only [Clock.read] at time endedAt ⊢
    rw [time, endedAt, startedAt]
    rfl

/-- The worker leaves the same clock, begins a search if it reads the file, and what becomes of its attempt
is one of five things. -/
theorem attempt_answers {plan : Plan} (files : Files) {solver strategy : String}
    {configuration : Configuration}
    (valid : Configuration.ofNames solver strategy plan.propagation = .ok configuration)
    {bench : Bench} (shows : ShowsDoubles bench.clock.time) (place : Place) :
    let attempted := attempt plan files bench solver strategy place
    attempted.2.clock.time = bench.clock.time ∧
      attempted.2.searches = bench.searches + (if isRead files place then 1 else 0) ∧
      Answers plan files bench.searches place attempted.1 := by
  cases accepted : Dimacs.read files place.path with
  | error fault =>
    have unread : isRead files place = false := by simp [isRead, accepted, Except.toBool]
    simp only [attempt, accepted, unread]
    exact ⟨trivial, rfl, .unread accepted⟩
  | ok problem =>
    have read : isRead files place = true := by simp [isRead, accepted, Except.toBool]
    simp only [attempt, accepted, read, if_true]
    cases waited : plan.waiting bench.searches with
    | refused => exact ⟨rfl, rfl, .unwaited accepted waited⟩
    | inVain => exact ⟨rfl, rfl, .hung accepted waited⟩
    | met =>
      obtain ⟨time, answers⟩ := attemptProblem_cases accepted waited valid shows
      rcases ran : attemptProblem ⟨solver, strategy, plan.propagation⟩
        ⟨some plan.timeout, plan.bytesBefore, plan.bytesDuring⟩ problem.clauses problem.numVars
        bench.clock with ⟨result, clock⟩
      rw [ran] at time answers
      rcases answers with ⟨fault, rfl, refused⟩ | ⟨found, rfl, finished⟩
      · exact ⟨time, rfl, refused⟩
      · exact ⟨time, rfl, finished⟩

/-! ## Failures -/

/-- The verdict of an attempt, if it came to one. -/
def Attempt.verdict? : Attempt → Option Bool
  | finished result => result.verdict
  | hung | broken _ => none

/-- Counted as failed. -/
def Count.isFailed : Count → Bool
  | failed => true
  | undecided | solved _ => false

/-- Counted as undecided. -/
def Count.isUndecided : Count → Bool
  | undecided => true
  | failed | solved _ => false

/-- An attempt is counted as failed. -/
def Task.fails (task : Task) (attempt : Attempt) : Bool :=
  (task.count attempt).isFailed

/-- An attempt came to no verdict, though nothing broke it. -/
def Attempt.isUndecided : Attempt → Bool
  | finished result => result.verdict.isNone
  | hung => true
  | broken _ => false

/-- A result without a verdict is left undecided. -/
theorem Task.count_of_undecided (task : Task) {result : Result} (found : result.verdict = none) :
    task.count (.finished result) = .undecided := by
  simp [count, Attempt.count, Standing.ofResult, Standing.count, found]

/-- A result with a verdict whose model holds is solved, unless another verdict is expected. -/
theorem Task.count_of_verdict (task : Task) {result : Result} {verdict : Bool}
    (found : result.verdict = some verdict) (holds : result.modelHolds = true) :
    task.count (.finished result) =
      if (expectedVerdict task.folder).any (· != verdict) then .failed else .solved result := by
  simp only [count, Attempt.count, Standing.ofResult, found, holds, Bool.not_true,
    Bool.false_eq_true, if_false]
  split <;> rfl

/-- A result whose model holds fails exactly if its verdict is another one than the name of the folder
tells. -/
theorem Task.fails_finished_iff (task : Task) {result : Result} (holds : result.modelHolds = true) :
    task.fails (.finished result) = true ↔ ∃ verdict expected, result.verdict = some verdict ∧
      expectedVerdict task.folder = some expected ∧ verdict ≠ expected := by
  cases found : result.verdict with
  | none => simp [fails, Count.isFailed, task.count_of_undecided found]
  | some verdict =>
    rw [fails, task.count_of_verdict found holds]
    cases expectedVerdict task.folder with
    | none => simp [Count.isFailed]
    | some expected => cases verdict <;> cases expected <;> simp [Count.isFailed]

/-- A broken attempt fails. -/
theorem Task.fails_broken (task : Task) (message : String) : task.fails (.broken message) = true := rfl

/-- An attempt fails exactly if its file is not read, its verdict is another one than the name of the
folder tells, or the timeout of its search cannot be kept. -/
theorem Answers.fails_iff {plan : Plan} {files : Files} {search : Nat} {place : Place}
    {attempt : Attempt} (answers : Answers plan files search place attempt) (task : Task) :
    task.fails attempt = true ↔
      (∃ fault, Dimacs.read files place.path = .error fault) ∨
      (∃ verdict expected, attempt.verdict? = some verdict ∧
        expectedVerdict task.folder = some expected ∧ verdict ≠ expected) ∨
      plan.Overtaxes search := by
  cases answers with
  | unread refused => simp [task.fails_broken, refused]
  | unwaited accepted refused => simp [task.fails_broken, Plan.Overtaxes, refused]
  | hung accepted inVain =>
    simp [Task.fails, Count.isFailed, Task.count, Attempt.count, accepted, Attempt.verdict?,
      Plan.Overtaxes, inVain]
  | overlong accepted met large => simp [task.fails_broken, Plan.Overtaxes, met, large]
  | finished accepted met small holds elapsed =>
    simp [task.fails_finished_iff holds, accepted, small, Attempt.verdict?, Plan.Overtaxes, met]

/-- No attempt is found to have a wrong model. -/
theorem Answers.ofResult_ne_wrongModel {plan : Plan} {files : Files} {search : Nat} {place : Place}
    {result : Result} (answers : Answers plan files search place (.finished result))
    (expected : Option Bool) : Standing.ofResult expected result ≠ .wrongModel := by
  cases answers with
  | finished accepted met small holds elapsed =>
    unfold Standing.ofResult
    split
    · simp
    · simp only [holds, Bool.not_true, Bool.false_eq_true, if_false]
      split <;> simp

/-! ## Rows of the table of results -/

/-- Everything a tally has measured is in doubles. -/
structure Tally.Measured (tally : Tally) : Prop where
  times : ∃ doubles : List Float, tally.times = doubles.map .real
  memMin : ∃ double, tally.memMin = .real double
  memMax : ∃ double, tally.memMax = .real double

/-- A new tally has its measures in doubles. -/
theorem Tally.measured_fresh : Tally.fresh.Measured :=
  ⟨⟨[], rfl⟩, ⟨_, rfl⟩, ⟨_, rfl⟩⟩

/-- Passing instances over leaves the measures in doubles. -/
theorem Tally.Measured.skip {tally : Tally} (measured : tally.Measured) (count : Nat) :
    (tally.skip count).Measured :=
  ⟨measured.times, measured.memMin, measured.memMax⟩

/-- Closing a tally leaves the measures in doubles. -/
theorem Tally.Measured.close {tally : Tally} (measured : tally.Measured) : tally.close.Measured :=
  ⟨measured.times, measured.memMin, measured.memMax⟩

/-- What is counted as solved is a result. -/
theorem Task.eq_finished_of_count {task : Task} {attempt : Attempt} {result : Result}
    (counted : task.count attempt = .solved result) : attempt = .finished result := by
  cases attempt with
  | broken message => cases counted
  | hung => cases counted
  | finished found =>
    have standing : (Standing.ofResult (expectedVerdict task.folder) found).count found =
        .solved result := counted
    cases kind : Standing.ofResult (expectedVerdict task.folder) found with
    | solved =>
      rw [kind] at standing
      exact congrArg Attempt.finished (Count.solved.inj standing)
    | timeout | wrongVerdict | wrongModel =>
      rw [kind] at standing
      cases standing

/-- Counting an attempt keeps measuring in doubles. -/
theorem Answers.measured {plan : Plan} {files : Files} {search : Nat} {place : Place}
    {attempt : Attempt} (answers : Answers plan files search place attempt) (task : Task)
    {tally : Tally} (measured : tally.Measured) : (tally.add (task.count attempt)).Measured := by
  obtain ⟨doubles, times⟩ := measured.times
  obtain ⟨least, memMin⟩ := measured.memMin
  obtain ⟨greatest, memMax⟩ := measured.memMax
  have kept (other : Tally) (sameTimes : other.times = tally.times)
      (sameLeast : other.memMin = tally.memMin) (sameGreatest : other.memMax = tally.memMax) :
      other.Measured :=
    ⟨⟨doubles, sameTimes.trans times⟩, ⟨least, sameLeast.trans memMin⟩,
      ⟨greatest, sameGreatest.trans memMax⟩⟩
  cases counted : task.count attempt with
  | failed => exact kept _ rfl rfl rfl
  | undecided => exact kept _ rfl rfl rfl
  | solved result =>
    obtain rfl := Task.eq_finished_of_count counted
    obtain ⟨seconds, elapsed⟩ : ∃ seconds, result.elapsed = .real seconds := by
      cases answers with
      | finished accepted met small holds elapsed => exact elapsed
    refine ⟨⟨doubles ++ [seconds], ?_⟩, ?_, ?_⟩
    · simp [Tally.add, Tally.addSolved, times, elapsed]
    · simp only [Tally.add, Tally.addSolved, memMin]
      exact Number.exists_least_real _ _
    · simp only [Tally.add, Tally.addSolved, memMax]
      exact Number.exists_greatest_real _ _

/-- A mean of decisions or conflicts is past every double. -/
def Tally.Overflows (tally : Tally) : Prop :=
  (Binary64.ofQuotient tally.decisions tally.times.length).isInf = true ∨
    (Binary64.ofQuotient tally.conflicts tally.times.length).isInf = true

/-- The row is one of a solver with a strategy and a folder. -/
def Row.isOf (label folder : String) : Row → Bool
  | .string first :: .string second :: _ => first == label && second == folder
  | _ => false

/-- A row is one of a single solver with a strategy and a folder. -/
theorem Row.isOf_unique {row : Row} {label folder otherLabel otherFolder : String}
    (here : row.isOf label folder = true) (there : row.isOf otherLabel otherFolder = true) :
    label = otherLabel ∧ folder = otherFolder := by
  unfold Row.isOf at here there
  split at here
  · simp_all
  · cases here

/-- A row can be made of a tally exactly if no mean is past every double. -/
theorem resultRow_cases {tally : Tally} (measured : tally.Measured) (balanced : tally.Balanced)
    (some : tally.times ≠ []) (label folder : String) :
    (¬ tally.Overflows ∧
      ∃ row, resultRow label folder tally.record = .ok row ∧ row.isOf label folder = true) ∨
      (resultRow label folder tally.record = .error .quotientTooLarge ∧ tally.Overflows) := by
  obtain ⟨doubles, times⟩ := measured.times
  obtain ⟨least, memMin⟩ := measured.memMin
  obtain ⟨greatest, memMax⟩ := measured.memMax
  have doublesSome : doubles ≠ [] := by simpa [times] using some
  have memsSome : tally.mems ≠ [] := by
    rw [← List.length_pos_iff, balanced.measured]
    exact List.length_pos_iff.mpr some
  obtain ⟨meanTime, meanTimes⟩ := Json.mean_ofFloats doublesSome
  obtain ⟨meanMemory, meanMems⟩ := Json.mean_ofFloats memsSome
  obtain ⟨leastTime, leastTimes⟩ := Number.exists_smallestOf_real doublesSome
  obtain ⟨greatestTime, greatestTimes⟩ := Number.exists_largestOf_real doublesSome
  have timesDocument : tally.content .times = Json.ofFloats doubles := by
    simp [Tally.content, times, Json.ofFloats, Json.ofFloat]
  have memsDocument : tally.content .mems = Json.ofFloats tally.mems := rfl
  have size : (Json.ofFloats doubles).size = .ok tally.times.length := by
    simp [Json.ofFloats, Json.size, times]
  have whole (count : Nat) : Json.dividedBy tally.times.length (.ofInt count) =
      if (Binary64.ofQuotient count tally.times.length).isInf then .error .quotientTooLarge
      else .ok (Binary64.ofQuotient count tally.times.length) := rfl
  have least : (tally.content .memMin).fixed 2 = .ok (Decimal.fixed 2 least) := by
    simp [Tally.content, memMin, Json.fixed, Json.number?]
  have greatest : (tally.content .memMax).fixed 2 = .ok (Decimal.fixed 2 greatest) := by
    simp [Tally.content, memMax, Json.fixed, Json.number?]
  have decisions : tally.content .decisions = .ofInt tally.decisions := rfl
  have conflicts : tally.content .conflicts = .ofInt tally.conflicts := rfl
  unfold Tally.Overflows
  simp only [resultRow, Tally.get_record, timesDocument, memsDocument, size, meanTimes, meanMems,
    Json.numbers_ofFloats, leastTimes, greatestTimes, Json.fixedNumber_real, least, greatest,
    decisions, conflicts, whole, bind, Except.bind, pure, Except.pure]
  cases overDecisions : (Binary64.ofQuotient tally.decisions tally.times.length).isInf with
  | true => exact .inr (by simp)
  | false =>
    cases overConflicts : (Binary64.ofQuotient tally.conflicts tally.times.length).isInf with
    | true => exact .inr (by simp)
    | false =>
      left
      simp only [Bool.false_eq_true, if_false]
      exact ⟨by simp, _, rfl, by simp [Row.isOf]⟩

end Clausal.Benchmark
