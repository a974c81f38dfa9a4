import Mathlib
import Clausal.Proofs.InstanceAttempts

/-!
# Accounts of folders

What the tally of a folder says once the folder is done. The attempts at its instances were made in order,
until none was left or ten in a row were left undecided. Each one adds to one counter, the instances that
were skipped count as undecided, and a row is kept if an instance was solved. What is counted as failed are
the attempts whose file was not read, whose verdict is not the expected one, or the timeout of whose search
cannot be kept. Searches are numbered by the files that were read before.
-/

namespace Clausal.Benchmark

variable {σ : Type}

/-! ## Attempts added up -/

/-- The tally with attempts at instances of the folder of a task. -/
def Task.addAll (task : Task) (tally : Tally) (attempts : List Attempt) : Tally :=
  attempts.foldl (fun tally attempt => tally.add (task.count attempt)) tally

/-- The attempts left undecided since the last one that was not. -/
def undecidedInARow (attempts : List Attempt) : Nat :=
  (attempts.reverse.takeWhile Attempt.isUndecided).length

/-- The attempts that came to no verdict are those counted as undecided. -/
theorem Task.isUndecided_count (task : Task) (attempt : Attempt) :
    (task.count attempt).isUndecided = attempt.isUndecided := by
  cases attempt with
  | broken message => rfl
  | hung => rfl
  | finished result =>
    simp only [count, Attempt.count, Attempt.isUndecided, Standing.ofResult]
    cases result.verdict with
    | none => rfl
    | some verdict =>
      dsimp only
      split
      · rfl
      · split <;> rfl

/-- One more attempt counts once. -/
theorem Task.counters_add (task : Task) (tally : Tally) (attempt : Attempt) :
    let next := tally.add (task.count attempt)
    next.failed = tally.failed + (if task.fails attempt then 1 else 0) ∧
      next.inconclusive = tally.inconclusive + (if attempt.isUndecided then 1 else 0) ∧
      next.timeouts = if attempt.isUndecided then tally.timeouts + 1 else 0 := by
  rw [← task.isUndecided_count, fails]
  cases task.count attempt <;> exact ⟨rfl, rfl, rfl⟩

/-- A counter that goes up with each attempt of a kind counts the attempts of that kind. -/
theorem Task.counter_addAll {task : Task} {counter : Tally → Nat} {counts : Attempt → Bool}
    (step : ∀ tally attempt, counter (tally.add (task.count attempt)) =
      counter tally + (if counts attempt then 1 else 0)) (attempts : List Attempt) :
    ∀ tally : Tally,
      counter (task.addAll tally attempts) = counter tally + attempts.countP counts := by
  induction attempts with
  | nil => exact fun _ => rfl
  | cons attempt rest ih =>
    intro tally
    rw [addAll, List.foldl_cons, ← addAll, ih, step, List.countP_cons]
    omega

/-- As many attempts are counted as failed as there are failing ones. -/
theorem Task.failed_addAll (task : Task) (attempts : List Attempt) :
    (task.addAll .fresh attempts).failed = attempts.countP task.fails :=
  (counter_addAll (fun tally attempt => (task.counters_add tally attempt).1) attempts .fresh).trans
    (Nat.zero_add _)

/-- As many attempts are counted as undecided as there are undecided ones. -/
theorem Task.inconclusive_addAll (task : Task) (attempts : List Attempt) :
    (task.addAll .fresh attempts).inconclusive = attempts.countP Attempt.isUndecided :=
  (counter_addAll (fun tally attempt => (task.counters_add tally attempt).2.1) attempts .fresh).trans
    (Nat.zero_add _)

/-- From nothing counted on, a tally knows how many attempts in a row were left undecided at the end. -/
theorem Task.timeouts_addAll (task : Task) (attempts : List Attempt) :
    (task.addAll .fresh attempts).timeouts = undecidedInARow attempts := by
  induction attempts using List.reverseRecOn with
  | nil => rfl
  | append_singleton earlier last ih =>
    have here := (task.counters_add (task.addAll .fresh earlier) last).2.2
    rw [addAll, List.foldl_append, List.foldl_cons, List.foldl_nil, ← addAll, here, ih]
    cases undecided : last.isUndecided <;> simp [undecidedInARow, undecided]

/-! ## The course of a folder -/

/-- The tally at the end counts the attempts that were made; the rest is left undecided. -/
theorem Task.tally_course (worker : Worker σ) (task : Task) (places : List Place) (memory : σ)
    (tally : Tally) :
    let course := task.course worker places memory tally
    course.attempts.length ≤ places.length ∧
      course.tally = (task.addAll tally course.attempts).skip
        (places.length - course.attempts.length) := by
  fun_induction Task.course worker task places memory tally with
  | case1 memory tally => exact ⟨le_rfl, rfl⟩
  | case2 place rest memory tally many => exact ⟨Nat.zero_le _, rfl⟩
  | case3 place rest memory tally few attempt remembered answer next later ih =>
    obtain ⟨fits, same⟩ := ih
    refine ⟨Nat.succ_le_succ fits, same.trans ?_⟩
    simp only [List.length_cons, Nat.add_sub_add_right]
    rfl

/-- Attempts that fail are counted as failed; those that are left undecided and the rest as undecided. -/
theorem Task.counters_course (worker : Worker σ) (task : Task) (memory : σ) :
    let course := task.course worker task.places memory .fresh
    course.tally.failed = course.attempts.countP task.fails ∧
      course.tally.inconclusive = course.attempts.countP Attempt.isUndecided +
        (task.places.length - course.attempts.length) := by
  intro course
  obtain ⟨-, counted⟩ : course.attempts.length ≤ task.places.length ∧ course.tally =
      (task.addAll .fresh course.attempts).skip (task.places.length - course.attempts.length) :=
    task.tally_course worker task.places memory .fresh
  rw [counted]
  exact ⟨task.failed_addAll course.attempts,
    congrArg (· + _) (task.inconclusive_addAll course.attempts)⟩

/-- Attempts are made as long as fewer than ten in a row were left undecided, and no longer. -/
theorem Task.limits_course (worker : Worker σ) (task : Task) (places : List Place) (memory : σ)
    (tally : Tally) :
    let course := task.course worker places memory tally
    (∀ count < course.attempts.length,
      (task.addAll tally (course.attempts.take count)).timeouts < timeoutLimit) ∧
      (course.attempts.length < places.length →
        timeoutLimit ≤ (task.addAll tally course.attempts).timeouts) := by
  fun_induction Task.course worker task places memory tally with
  | case1 memory tally => simp
  | case2 place rest memory tally many => exact ⟨by simp, fun _ => many⟩
  | case3 place rest memory tally few attempt remembered answer next later ih =>
    obtain ⟨reached, skipped⟩ := ih
    refine ⟨fun count within => ?_, fun short => skipped (Nat.lt_of_succ_lt_succ short)⟩
    cases count with
    | zero => exact not_le.mp few
    | succ count => exact reached count (Nat.lt_of_succ_lt_succ within)

/-- What is told is that a folder is given up, or what became of an attempt. -/
theorem Task.notices_course (worker : Worker σ) (task : Task) (places : List Place) (memory : σ)
    (tally : Tally) :
    let course := task.course worker places memory tally
    ∀ notice ∈ course.notices, notice = .givingUp task.folder ∨
      ∃ place attempt timeouts, (place, attempt) ∈ places.zip course.attempts ∧
        notice = Attempt.notice task place timeouts attempt := by
  fun_induction Task.course worker task places memory tally with
  | case1 memory tally => simp
  | case2 place rest memory tally many => simp
  | case3 place rest memory tally few attempt remembered answer next later ih =>
    intro course notice found
    rcases List.mem_append.mp found with old | last
    · rcases ih notice old with givingUp | ⟨other, made, timeouts, paired, told⟩
      · exact .inl givingUp
      · exact .inr ⟨other, made, timeouts, List.mem_cons_of_mem _ paired, told⟩
    · exact .inr ⟨place, attempt, next.timeouts, List.mem_cons_self, List.mem_singleton.mp last⟩

/-! ## What becomes of a folder -/

/-- The names of a task are known, and so is the propagation scheme of the plan. -/
def Plan.Knows (plan : Plan) (task : Task) : Prop :=
  ∃ configuration, Configuration.ofNames task.solver task.strategy plan.propagation = .ok configuration

variable {plan : Plan} {task : Task} (files : Files)

/-- The number of the search for the place at an index, if the first search has the given number. -/
def searchAt (files : Files) (first : Nat) (places : List Place) (index : Nat) : Nat :=
  first + (places.take index).countP (isRead files)

/-- After the first place the numbers of searches go on from the number after it. -/
theorem searchAt_cons_succ (first : Nat) (place : Place) (rest : List Place) (index : Nat) :
    searchAt files first (place :: rest) (index + 1) =
      searchAt files (first + if isRead files place then 1 else 0) rest index := by
  simp only [searchAt, List.take_succ_cons, List.countP_cons]
  omega

/-- The worker keeps its clock through a folder, and its answers are of the five kinds. -/
theorem answers_course (knows : plan.Knows task) (places : List Place) (bench : Bench) (tally : Tally)
    (shows : ShowsDoubles bench.clock.time) :
    let course := task.course (workerOf plan files) places bench tally
    course.memory.clock.time = bench.clock.time ∧
      ∀ (index : Nat) (place : Place) (attempt : Attempt), places[index]? = some place →
        course.attempts[index]? = some attempt →
        Answers plan files (searchAt files bench.searches places index) place attempt := by
  obtain ⟨configuration, valid⟩ := knows
  fun_induction Task.course (workerOf plan files) task places bench tally with
  | case1 bench tally => simp
  | case2 place rest bench tally many => simp
  | case3 place rest bench tally few attempt remembered answer next later ih =>
    obtain ⟨time, searches, answers⟩ := attempt_answers files valid shows place
    have same : Benchmark.attempt plan files bench task.solver task.strategy place =
      (attempt, remembered) := answer
    rw [same] at time searches answers
    obtain ⟨laterTime, laterAnswers⟩ := ih (time ▸ shows)
    refine ⟨laterTime.trans time, fun index other made here paired => ?_⟩
    cases index with
    | zero =>
      obtain rfl := Option.some.inj here
      obtain rfl := Option.some.inj paired
      exact answers
    | succ index =>
      rw [searchAt_cons_succ, ← searches]
      exact laterAnswers index other made here paired

/-- Attempts with answers of the five kinds keep measuring in doubles. -/
theorem measured_addAll {files : Files} (task : Task) {attempts : List Attempt}
    (answered : ∀ attempt ∈ attempts, ∃ search place, Answers plan files search place attempt) :
    ∀ {tally : Tally}, tally.Measured → (task.addAll tally attempts).Measured := by
  induction attempts with
  | nil => exact fun measured => measured
  | cons attempt rest ih =>
    intro tally measured
    obtain ⟨search, place, answers⟩ := answered attempt (by simp)
    exact ih (fun other member => answered other (by simp [member])) (answers.measured task measured)

/-- What is measured in a folder is in doubles. -/
theorem measured_course (knows : plan.Knows task) {bench : Bench}
    (shows : ShowsDoubles bench.clock.time) :
    (task.course (workerOf plan files) task.places bench .fresh).tally.Measured := by
  obtain ⟨-, answers⟩ := answers_course files knows task.places bench .fresh shows
  obtain ⟨fits, counted⟩ := task.tally_course (workerOf plan files) task.places bench .fresh
  have answered : ∀ attempt ∈ (task.course (workerOf plan files) task.places bench .fresh).attempts,
      ∃ search place, Answers plan files search place attempt := by
    intro attempt member
    obtain ⟨index, within, made⟩ := List.mem_iff_getElem.mp member
    have place : task.places[index]? = some task.places[index] :=
      List.getElem?_eq_getElem (Nat.lt_of_lt_of_le within fits)
    exact ⟨_, _, answers index _ attempt place (by rw [List.getElem?_eq_getElem within, made])⟩
  rw [counted]
  exact (measured_addAll task answered Tally.measured_fresh).skip _

/-- Closing a folder changes nothing that was counted. -/
theorem Task.exists_tally_ending (task : Task) (tally : Tally) :
    ∃ rows, (task.ending tally).tally = { tally with completed := true, rows := rows } := by
  unfold ending
  split
  · exact ⟨_, rfl⟩
  · split <;> exact ⟨_, rfl⟩

/-- The counters add up at the end of a folder if they do before it. -/
theorem Task.balanced_ending (task : Task) {tally : Tally} (balanced : tally.Balanced) :
    (task.ending tally).tally.Balanced := by
  obtain ⟨rows, closed⟩ := task.exists_tally_ending tally
  rw [closed]
  exact ⟨balanced.counted, balanced.measured⟩

/-- A folder that was open is closed with one row if an instance was solved and with none otherwise, unless
a mean is past every double. -/
theorem ending_cases {tally : Tally} (opened : tally.Open task) (measured : tally.Measured) :
    let ending := task.ending tally
    (ending.misuse = none ∧ ending.tally.rows = ending.rows ∧
      ending.rows.length = (if tally.times.isEmpty then 0 else 1) ∧
      ∀ row ∈ ending.rows, row.isOf task.label task.folder = true) ∨
      (ending.misuse = some .quotientTooLarge ∧ ending.tally.Overflows) := by
  unfold Task.ending
  cases empty : tally.times.isEmpty with
  | true => exact .inl ⟨rfl, opened.bare, rfl, by simp⟩
  | false =>
    have some : tally.close.times ≠ [] := by simpa [Tally.close] using empty
    rcases resultRow_cases measured.close opened.balanced.close some task.label task.folder with
      ⟨-, row, made, isOf⟩ | ⟨refused, overflows⟩
    · have rows : (tally.close.addRow row).rows = [row] := by
        simp [Tally.addRow, Tally.close, opened.bare]
      simp [made, rows, isOf]
    · simp [refused, overflows]

/-- What a tally says about a folder that was dealt with: the attempts at its instances were made in order,
until none was left or ten in a row were left undecided, and each instance is counted once. -/
structure Account (plan : Plan) (files : Files) (task : Task) (bench : Bench)
    (attempts : List Attempt) (tally : Tally) : Prop where
  /-- The worker has made the attempts. -/
  made : (task.course (workerOf plan files) task.places bench .fresh).attempts = attempts
  /-- Each attempt is at an instance of its own. -/
  fits : attempts.length ≤ task.places.length
  /-- Instances are reached until ten in a row were left undecided. -/
  reached : ∀ count < attempts.length, undecidedInARow (attempts.take count) < 10
  /-- Instances are skipped only then. -/
  skipped : attempts.length < task.places.length → 10 ≤ undecidedInARow attempts
  /-- The folder is done. -/
  completed : tally.completed = true
  /-- Each instance is counted once. -/
  balanced : tally.Balanced
  /-- All instances are dealt with. -/
  dealt : tally.dealt = task.places.length
  /-- An attempt fails if its file was not read, its verdict is another one than the name of the folder
  tells, or the timeout of its search cannot be kept. -/
  classes : ∀ (index : Nat) (place : Place) (attempt : Attempt), task.places[index]? = some place →
    attempts[index]? = some attempt →
    (task.fails attempt = true ↔
      (∃ fault, Dimacs.read files place.path = .error fault) ∨
      (∃ verdict expected, attempt.verdict? = some verdict ∧
        expectedVerdict task.folder = some expected ∧ verdict ≠ expected) ∨
      plan.Overtaxes (searchAt files bench.searches task.places index))
  /-- The attempts that fail are counted as failed. -/
  failed : tally.failed = attempts.countP task.fails
  /-- The attempts without a verdict and the instances skipped are counted as undecided. -/
  inconclusive : tally.inconclusive =
    attempts.countP Attempt.isUndecided + (task.places.length - attempts.length)
  /-- There is one row if an instance was solved, and none otherwise. -/
  rows : tally.rows.length = if tally.times.isEmpty then 0 else 1

/-- At most one row is kept. -/
theorem Account.reverse_rows {bench : Bench} {attempts : List Attempt} {tally : Tally}
    (account : Account plan files task bench attempts tally) : tally.rows.reverse = tally.rows := by
  have few : tally.rows.length ≤ 1 := by
    rw [account.rows]
    split <;> decide
  match rows : tally.rows with
  | [] => rfl
  | [row] => rfl
  | _ :: _ :: _ => simp [rows] at few

/-- A folder that is worked on from its first instance and closed has its account. -/
theorem account_course (knows : plan.Knows task) {bench : Bench}
    (shows : ShowsDoubles bench.clock.time) :
    let course := task.course (workerOf plan files) task.places bench .fresh
    let ending := task.ending course.tally
    (ending.misuse = none ∧ Account plan files task bench course.attempts ending.tally ∧
      ending.tally.rows = ending.rows ∧ ∀ row ∈ ending.rows, row.isOf task.label task.folder = true) ∨
      (ending.misuse = some .quotientTooLarge ∧ ending.tally.Overflows) := by
  intro course ending
  obtain ⟨-, answers⟩ := answers_course files knows task.places bench .fresh shows
  obtain ⟨fits, -⟩ := task.tally_course (workerOf plan files) task.places bench .fresh
  obtain ⟨failed, inconclusive⟩ := task.counters_course (workerOf plan files) bench
  obtain ⟨reached, skipped⟩ := task.limits_course (workerOf plan files) task.places bench .fresh
  have opened : course.tally.Open task := (task.open_course (workerOf plan files) task.places bench
    (Tally.open_fresh task) (by simp [Tally.fresh, Task.total])).1
  rcases ending_cases opened (measured_course files knows shows) with
    ⟨unbroken, kept, single, isOf⟩ | broken
  · refine .inl ⟨unbroken, ?_, kept, isOf⟩
    obtain ⟨rows, closed⟩ := task.exists_tally_ending course.tally
    have dealt : course.tally.dealt = task.places.length :=
      (task.dealt_course (workerOf plan files) task.places bench .fresh).trans (Nat.zero_add _)
    have limit : timeoutLimit = (10 : Nat) := rfl
    simp only [Task.timeouts_addAll, limit, Nat.cast_lt, Nat.cast_le] at reached skipped
    have balanced := task.balanced_ending opened.balanced
    have length := (congrArg List.length kept).trans single
    simp only [ending, closed] at balanced length ⊢
    exact {
      made := rfl
      fits := fits
      reached := reached
      skipped := skipped
      completed := rfl
      balanced := balanced
      dealt := dealt
      classes := fun index place attempt here paired =>
        (answers index place attempt here paired).fails_iff task
      failed := failed
      inconclusive := inconclusive
      rows := length }
  · exact .inr broken

end Clausal.Benchmark
