import Mathlib
import Clausal.Proofs.FolderAccounts

/-!
# Accounts of campaigns

What a campaign keeps up from task to task, with names that are known and a clock that shows doubles. Every
record that is saved on the way is balanced, and no model is found wrong. The invariant speaks of the tasks
that are done: each one has its account and its row, and the ledger and the table of results hold what
belongs to them and nothing else. So a task comes in once, also if its strategy is named twice.

The worker remembers what the tasks before have left to it, and each account is about the worker as the task
found it.
-/

namespace Clausal.Benchmark

open Json (Misuse)
open Campaign (runTask runTasks runPair runPairs)

variable {σ : Type}

/-! ## Stages with an invariant -/

/-- From campaigns with one property a stage leads to campaigns with another one, unless it is broken
off. -/
def Stage.Yields (stage : Stage σ) (before after : Campaign σ → Prop)
    (broken : Campaign σ → Misuse → Prop) : Prop :=
  ∀ campaign, before campaign →
    ((stage campaign).2 = none ∧ after (stage campaign).1) ∨
      ∃ misuse, (stage campaign).2 = some misuse ∧ broken (stage campaign).1 misuse

/-- Two stages one after another yield what the later one yields, if each is right about where it begins. -/
theorem Stage.Yields.andThen {first second : Stage σ} {before middle after : Campaign σ → Prop}
    {broken : Campaign σ → Misuse → Prop} (yields : first.Yields before middle broken)
    (next : second.Yields middle after broken) : (first.andThen second).Yields before after broken := by
  intro campaign holds
  have here := yields campaign holds
  rcases ran : first campaign with ⟨ended, stopped⟩
  rw [ran] at here
  simp only [Stage.andThen, ran]
  rcases here with ⟨rfl, held⟩ | ⟨misuse, rfl, off⟩
  · exact next ended held
  · exact .inr ⟨misuse, rfl, off⟩

/-! ## Sound campaigns -/

/-- Every record of a ledger is that of a balanced tally. -/
def Ledger.IsBalanced (ledger : Ledger) : Prop :=
  ledger.Each fun record => ∃ tally : Tally, record = tally.record ∧ tally.Balanced

/-- A record in which the counters add up can be put into a ledger in which they add up. -/
theorem Ledger.IsBalanced.setTally {ledger : Ledger} (each : ledger.IsBalanced) (task : Task)
    {tally : Tally} (balanced : tally.Balanced) : (ledger.setTally task tally).IsBalanced :=
  Each.setRecord each _ _ _ ⟨tally, rfl, balanced⟩

/-- The standing that a notice tells of, if it tells of one. -/
def Notice.standing? : Notice → Option Standing
  | attempted _ _ standing .. => some standing
  | _ => none

/-- What is told of an attempt is never a wrong model. -/
theorem Answers.standing?_notice {plan : Plan} {files : Files} {search : Nat} {place : Place}
    {attempt : Attempt} (answers : Answers plan files search place attempt) (task : Task)
    (timeouts : Nat) :
    (attempt.notice task place timeouts).standing? ≠ some .wrongModel := by
  cases attempt with
  | broken message => simp [Attempt.notice, Notice.standing?]
  | hung => simp [Attempt.notice, Notice.standing?]
  | finished result =>
    intro wrong
    exact answers.ofResult_ne_wrongModel _ (Option.some.inj wrong)

/-- What a campaign keeps up whatever happens: its clock, balanced records now and in all that was saved,
and no wrong model. -/
structure Campaign.Sound (time : Nat → Number) (campaign : Campaign Bench) : Prop where
  time : campaign.memory.clock.time = time
  ledger : campaign.ledger.IsBalanced
  saved : ∀ ledger ∈ campaign.saved, ledger.IsBalanced
  notices : ∀ notice ∈ campaign.notices, notice.standing? ≠ some .wrongModel

/-- A campaign that is broken off is sound, and a mean of a task is past every double. -/
structure Campaign.BrokenOff (time : Nat → Number) (tasks : List Task) (campaign : Campaign Bench)
    (misuse : Misuse) : Prop where
  sound : campaign.Sound time
  cause : misuse = .quotientTooLarge
  overflows : ∃ task ∈ tasks, ∃ tally, campaign.ledger.Holds task tally ∧ tally.Overflows

/-- What the worker remembers after tasks, the latest one first. -/
def memoryAfter (worker : Worker σ) (memory : σ) : List Task → σ
  | [] => memory
  | task :: earlier =>
    (task.course worker task.places (memoryAfter worker memory earlier) .fresh).memory

/-- A task is done after earlier ones: it has its account, which is about the worker as they left it, and its
row. -/
structure Campaign.Settles (plan : Plan) (files : Files) (bench : Bench) (campaign : Campaign Bench)
    (task : Task) (earlier : List Task) (tally : Tally) (attempts : List Attempt) : Prop where
  held : campaign.ledger.Holds task tally
  account : Account plan files task (memoryAfter (workerOf plan files) bench earlier) attempts tally
  rows : campaign.written.filter (Row.isOf task.label task.folder) = tally.rows

/-- The tasks that are done, the latest one first, have their accounts and their rows, and there is nothing
else. A task that came again counts where it came first. -/
structure Campaign.Accounts (plan : Plan) (files : Files) (bench : Bench) (tasks done : List Task)
    (campaign : Campaign Bench) : Prop where
  sound : campaign.Sound bench.clock.time
  memory : campaign.memory = memoryAfter (workerOf plan files) bench done.dedup
  within : ∀ task ∈ done, task ∈ tasks
  settled : ∀ task ∈ done, ∃ earlier tally attempts, task :: earlier <:+ done.dedup ∧
    campaign.Settles plan files bench task earlier tally attempts
  known : ∀ task ∈ tasks,
    campaign.ledger.record? task.solver task.strategy task.folder ≠ none → task ∈ done
  written : ∀ row ∈ campaign.written, ∃ task ∈ done, row.isOf task.label task.folder = true

/-- Tasks are told apart by what stands in their rows. -/
def Distinct (tasks : List Task) : Prop :=
  ∀ first ∈ tasks, ∀ second ∈ tasks,
    first.label = second.label → first.folder = second.folder → first = second

variable {plan : Plan} {files : Files} {time : Nat → Number} {bench : Bench}
  {tasks done earlier : List Task} {task : Task} {campaign : Campaign Bench}

/-- Telling something else than a wrong model and making a place keep a campaign sound. -/
theorem Campaign.Sound.opened (sound : campaign.Sound time) {notice : Notice}
    (right : notice.standing? ≠ some .wrongModel) {ledger : Ledger} (balanced : ledger.IsBalanced) :
    Campaign.Sound time { campaign.tell notice with ledger := ledger } where
  time := sound.time
  ledger := balanced
  saved := sound.saved
  notices other member := by
    rcases List.mem_cons.mp member with rfl | old
    · exact right
    · exact sound.notices other old

/-- A ledger with the same records and another notice leave the accounts as they are. -/
theorem Campaign.Accounts.opened (accounts : campaign.Accounts plan files bench tasks done)
    {notice : Notice} (right : notice.standing? ≠ some .wrongModel) {ledger : Ledger}
    (balanced : ledger.IsBalanced)
    (same : ∀ solver strategy folder,
      ledger.record? solver strategy folder = campaign.ledger.record? solver strategy folder) :
    Campaign.Accounts plan files bench tasks done { campaign.tell notice with ledger := ledger } where
  sound := accounts.sound.opened right balanced
  memory := accounts.memory
  within := accounts.within
  settled task member := by
    obtain ⟨earlier, tally, attempts, before, settles⟩ := accounts.settled task member
    exact ⟨earlier, tally, attempts, before, (same ..).trans settles.held, settles.account, settles.rows⟩
  known task member found := accounts.known task member (same .. ▸ found)
  written := accounts.written

/-! ## One task -/

/-- Working on a task keeps a campaign sound. -/
theorem Campaign.Sound.worked (files : Files) (sound : campaign.Sound time)
    (shows : ShowsDoubles time) (knows : plan.Knows task) :
    let course := task.course (workerOf plan files) task.places campaign.memory .fresh
    (campaign.worked task course).Sound time := by
  intro course
  have shown : ShowsDoubles campaign.memory.clock.time := sound.time ▸ shows
  obtain ⟨kept, answers⟩ := answers_course files knows task.places campaign.memory .fresh shown
  obtain ⟨opened, savedOpen⟩ := task.open_course (workerOf plan files) task.places campaign.memory
    (Tally.open_fresh task) (by simp [Tally.fresh, Task.total])
  have balanced := task.balanced_ending opened.balanced
  refine ⟨kept.trans sound.time, sound.ledger.setTally task balanced, ?_, ?_⟩
  · intro ledger member
    rcases List.mem_append.mp member with new | old
    · obtain ⟨tally, found, rfl⟩ := List.mem_map.mp new
      rcases List.mem_append.mp found with closing | onTheWay
      · obtain ⟨rfl, -⟩ := Task.saved_ending opened.bare closing
        exact sound.ledger.setTally task balanced
      · exact sound.ledger.setTally task (savedOpen tally onTheWay).balanced
    · exact sound.saved ledger old
  · intro notice member
    rcases List.mem_append.mp member with new | old
    · rcases task.notices_course _ _ _ _ notice new with rfl | ⟨place, attempt, timeouts, paired, rfl⟩
      · simp [Notice.standing?]
      · obtain ⟨index, found⟩ := List.mem_iff_getElem?.mp paired
        obtain ⟨here, made⟩ := List.getElem?_zip_eq_some.mp found
        exact (answers index place attempt here made).standing?_notice task timeouts
    · exact sound.notices notice old

/-- A task that was done is done. -/
theorem Campaign.Accounts.again (accounts : campaign.Accounts plan files bench tasks done)
    (old : task ∈ done) : campaign.Accounts plan files bench tasks (task :: done) where
  sound := accounts.sound
  memory := by
    rw [List.dedup_cons_of_mem old]
    exact accounts.memory
  within := List.forall_mem_cons.mpr ⟨accounts.within task old, accounts.within⟩
  settled := by
    rw [List.dedup_cons_of_mem old]
    exact List.forall_mem_cons.mpr ⟨accounts.settled task old, accounts.settled⟩
  known other member found := List.mem_cons_of_mem _ (accounts.known other member found)
  written row found := by
    obtain ⟨other, member, isOf⟩ := accounts.written row found
    exact ⟨other, List.mem_cons_of_mem _ member, isOf⟩

/-- Rows of a task that is not done are not those of one that is. -/
theorem Distinct.isOf_eq_false (distinct : Distinct tasks) {first second : Task}
    (here : first ∈ tasks) (there : second ∈ tasks) (different : first ≠ second) {row : Row}
    (isOf : row.isOf first.label first.folder = true) :
    ¬ row.isOf second.label second.folder = true := by
  intro other
  obtain ⟨label, folder⟩ := Row.isOf_unique isOf other
  exact different (distinct first here second there label folder)

/-- Setting the tally of a task leaves the records of all others alone. -/
theorem Distinct.record?_setTally (distinct : Distinct tasks) {first second : Task}
    (here : first ∈ tasks) (there : second ∈ tasks) (different : first ≠ second) (ledger : Ledger)
    (tally : Tally) :
    (ledger.setTally second tally).record? first.solver first.strategy first.folder =
      ledger.record? first.solver first.strategy first.folder := by
  apply Ledger.record?_setRecord_of_ne
  intro same
  simp only [Prod.mk.injEq] at same
  obtain ⟨solver, strategy, folder⟩ := same
  exact different (distinct first here second there
    (by rw [Task.label, Task.label, solver, strategy]) folder)

/-- What was settled stays settled when another task comes in. -/
theorem Campaign.Settles.add {tally other : Tally} {attempts : List Attempt} {second : Task}
    (settles : campaign.Settles plan files bench task earlier tally attempts)
    (distinct : Distinct tasks) (here : task ∈ tasks) (there : second ∈ tasks)
    (different : task ≠ second) {after : Campaign Bench}
    (ledger : after.ledger = campaign.ledger.setTally second other)
    (written : after.written = other.rows ++ campaign.written)
    (isOf : ∀ row ∈ other.rows, row.isOf second.label second.folder = true) :
    after.Settles plan files bench task earlier tally attempts where
  held := by
    rw [ledger]
    exact (distinct.record?_setTally here there different _ _).trans settles.held
  account := settles.account
  rows := by
    have none : other.rows.filter (Row.isOf task.label task.folder) = [] := by
      rw [List.filter_eq_nil_iff]
      intro row found
      exact distinct.isOf_eq_false there here different.symm (isOf row found)
    rw [written, List.filter_append, none, settles.rows, List.nil_append]

/-- The rows of a task that is not done are those that it brings in. -/
theorem Campaign.Accounts.filter_written (accounts : campaign.Accounts plan files bench tasks done)
    (distinct : Distinct tasks) (member : task ∈ tasks) (new : task ∉ done) {rows : List Row}
    (isOf : ∀ row ∈ rows, row.isOf task.label task.folder = true) :
    (rows ++ campaign.written).filter (Row.isOf task.label task.folder) = rows := by
  have others : campaign.written.filter (Row.isOf task.label task.folder) = [] := by
    rw [List.filter_eq_nil_iff]
    intro row found
    obtain ⟨other, old, isOther⟩ := accounts.written row found
    have different : other ≠ task := fun same => new (same ▸ old)
    exact distinct.isOf_eq_false (accounts.within other old) member different isOther
  rw [List.filter_append, others, List.filter_eq_self.mpr isOf, List.append_nil]

/-- A task with its account comes in. -/
theorem Campaign.Accounts.add (accounts : campaign.Accounts plan files bench tasks done)
    (distinct : Distinct tasks) (member : task ∈ tasks) (new : task ∉ done)
    {after : Campaign Bench} {tally : Tally} {attempts : List Attempt}
    (sound : after.Sound bench.clock.time)
    (memory : after.memory =
      (task.course (workerOf plan files) task.places campaign.memory .fresh).memory)
    (ledger : after.ledger = campaign.ledger.setTally task tally)
    (written : after.written = tally.rows ++ campaign.written)
    (account : Account plan files task campaign.memory attempts tally)
    (isOf : ∀ row ∈ tally.rows, row.isOf task.label task.folder = true) :
    after.Accounts plan files bench tasks (task :: done) where
  sound := sound
  memory := by
    rw [List.dedup_cons_of_notMem new, memoryAfter, ← accounts.memory]
    exact memory
  within := List.forall_mem_cons.mpr ⟨member, accounts.within⟩
  settled := by
    rw [List.dedup_cons_of_notMem new]
    refine List.forall_mem_cons.mpr ⟨?_, ?_⟩
    · have held : after.ledger.Holds task tally := by
        rw [ledger]
        exact Ledger.holds_setTally ..
      have rows : after.written.filter (Row.isOf task.label task.folder) = tally.rows := by
        rw [written]
        exact accounts.filter_written distinct member new isOf
      exact ⟨done.dedup, tally, attempts, List.suffix_refl _, held, accounts.memory ▸ account, rows⟩
    · intro other old
      obtain ⟨earlier, otherTally, made, before, settles⟩ := accounts.settled other old
      have different : other ≠ task := fun same => new (same ▸ old)
      exact ⟨earlier, otherTally, made, before.trans (List.suffix_cons _ _),
        settles.add distinct (accounts.within other old) member different ledger written isOf⟩
  known other within found := by
    by_cases same : other = task
    · exact List.mem_cons.mpr (.inl same)
    · apply List.mem_cons_of_mem
      apply accounts.known other within
      rwa [ledger, distinct.record?_setTally within member same] at found
  written row found := by
    rw [written] at found
    rcases List.mem_append.mp found with here | old
    · exact ⟨task, List.mem_cons_self, isOf row here⟩
    · obtain ⟨other, member, isOther⟩ := accounts.written row old
      exact ⟨other, List.mem_cons_of_mem _ member, isOther⟩

/-- A task that is not done is worked on, and then it is done like the others. One that is done comes back
if its strategy is named twice. -/
theorem yields_runTask (shows : ShowsDoubles bench.clock.time) (distinct : Distinct tasks)
    (knows : plan.Knows task) (member : task ∈ tasks) :
    Stage.Yields (runTask (workerOf plan files) task)
      (Campaign.Accounts plan files bench tasks done)
      (Campaign.Accounts plan files bench tasks (task :: done))
      (Campaign.BrokenOff bench.clock.time tasks) := by
  intro campaign accounts
  by_cases old : task ∈ done
  · obtain ⟨earlier, tally, attempts, -, settles⟩ := accounts.settled task old
    rw [Campaign.runTask_of_done _ settles.held settles.account.completed]
    have right : (Notice.skipping task.label task.folder).standing? ≠ some .wrongModel := by
      simp [Notice.standing?]
    exact .inl ⟨rfl, (accounts.opened right accounts.sound.ledger fun _ _ _ => rfl).again old⟩
  · have unknown : campaign.ledger.record? task.solver task.strategy task.folder = none := by
      by_contra found
      exact old (accounts.known task member found)
    have shown : ShowsDoubles campaign.memory.clock.time := accounts.sound.time ▸ shows
    have sound := accounts.sound.worked files shows knows
    rw [Campaign.runTask_of_open _ (.inr ⟨unknown, rfl⟩) (Tally.open_fresh task)]
    rcases account_course files knows shown with
      ⟨unbroken, account, kept, isOf⟩ | ⟨broken, overflows⟩
    · have written := congrArg (· ++ campaign.written) kept.symm
      exact .inl ⟨unbroken, accounts.add distinct member old sound rfl rfl written account (kept ▸ isOf)⟩
    · exact .inr ⟨_, broken, sound, rfl, task, member, _, Ledger.holds_setTally .., overflows⟩

/-! ## Tasks one after another -/

/-- Tasks are worked on one after another. -/
theorem yields_runTasks (shows : ShowsDoubles bench.clock.time) (distinct : Distinct tasks)
    (knows : ∀ task ∈ tasks, plan.Knows task) (turn : List Task) :
    ∀ {done : List Task}, (∀ task ∈ turn, task ∈ tasks) →
      Stage.Yields (runTasks (workerOf plan files) turn)
        (Campaign.Accounts plan files bench tasks done)
        (Campaign.Accounts plan files bench tasks (turn.reverse ++ done))
        (Campaign.BrokenOff bench.clock.time tasks) := by
  induction turn with
  | nil => exact fun _ campaign accounts => .inl ⟨rfl, accounts⟩
  | cons task rest ih =>
    intro done within
    obtain ⟨member, others⟩ := List.forall_mem_cons.mp within
    rw [runTasks_cons, List.reverse_cons, List.append_assoc]
    exact (yields_runTask shows distinct (knows task member) member).andThen (ih others)

/-- Making a place leaves the accounts as they are. -/
theorem yields_openPair (solver strategy : String) :
    Stage.Yields (openPair solver strategy) (Campaign.Accounts plan files bench tasks done)
      (Campaign.Accounts plan files bench tasks done) (Campaign.BrokenOff bench.clock.time tasks) := by
  intro campaign accounts
  have right : (Notice.heading s!"{solver}-{strategy}").standing? ≠ some .wrongModel := by
    simp [Notice.standing?]
  have balanced : (campaign.ledger.setRecords solver strategy
      (campaign.ledger.records solver strategy)).IsBalanced :=
    Ledger.Each.setRecords accounts.sound.ledger _ _ (Ledger.Each.records accounts.sound.ledger _ _)
  exact .inl ⟨rfl, accounts.opened right balanced (campaign.ledger.record?_open solver strategy)⟩

/-- The tasks of pairs of a solver and a strategy. -/
def tasksOfPairs (groups : Groups) (pairs : List (String × String)) : List Task :=
  pairs.flatMap fun pair => tasksOf groups pair.1 pair.2

/-- Solvers and strategies have their turns one after another. -/
theorem yields_runPairs (files : Files) (shows : ShowsDoubles bench.clock.time) (distinct : Distinct tasks)
    (knows : ∀ task ∈ tasks, plan.Knows task) (groups : Groups) (pairs : List (String × String)) :
    ∀ {done : List Task}, (∀ task ∈ tasksOfPairs groups pairs, task ∈ tasks) →
      Stage.Yields (runPairs (workerOf plan files) groups pairs)
        (Campaign.Accounts plan files bench tasks done)
        (Campaign.Accounts plan files bench tasks ((tasksOfPairs groups pairs).reverse ++ done))
        (Campaign.BrokenOff bench.clock.time tasks) := by
  induction pairs with
  | nil => exact fun _ campaign accounts => .inl ⟨rfl, accounts⟩
  | cons pair rest ih =>
    intro done within
    have split : tasksOfPairs groups (pair :: rest) =
      tasksOf groups pair.1 pair.2 ++ tasksOfPairs groups rest := List.flatMap_cons
    rw [split] at within ⊢
    obtain ⟨here, others⟩ := List.forall_mem_append.mp within
    rw [runPairs_cons, runPair_eq, List.reverse_append, List.append_assoc]
    exact ((yields_openPair pair.1 pair.2).andThen
      (yields_runTasks shows distinct knows _ here)).andThen (ih others)

/-! ## Names -/

/-- A name that is known is the name of a variant. -/
theorem exists_variant_of_ofNames {variant strategy propagation : String}
    {configuration : Configuration}
    (valid : Configuration.ofNames variant strategy propagation = .ok configuration) :
    ∃ known : Variant, known.name = variant := by
  cases found : Variant.ofName variant with
  | error fault => simp [Configuration.ofNames, found, bind, Except.bind] at valid
  | ok known =>
    refine ⟨known, ?_⟩
    unfold Variant.ofName at found
    split at found
    · next listed =>
      cases found
      simpa using List.find?_some listed
    · cases found

/-- The characters of a label. -/
theorem Task.toList_label (task : Task) :
    task.label.toList = task.solver.toList ++ '-' :: task.strategy.toList := by
  simp [Task.label, toString]

/-- The name of a known solver ends where the first hyphen of a label stands. -/
theorem Plan.Knows.takeWhile_label (knows : plan.Knows task) :
    task.label.toList.takeWhile (· != '-') = task.solver.toList := by
  obtain ⟨configuration, valid⟩ := knows
  obtain ⟨variant, name⟩ := exists_variant_of_ofNames valid
  have whole : ∀ character ∈ task.solver.toList, (character != '-') = true := by
    rw [← name]
    cases variant <;> simp [Variant.name]
  rw [task.toList_label, List.takeWhile_append_of_pos whole, List.takeWhile_cons_of_neg (by simp),
    List.append_nil]

/-- Labels with a known solver in front tell solver and strategy. -/
theorem Plan.Knows.label_injective {first second : Task} (known : plan.Knows first)
    (alsoKnown : plan.Knows second) (same : first.label = second.label) :
    first.solver = second.solver ∧ first.strategy = second.strategy := by
  have solver : first.solver = second.solver := by
    rw [← String.toList_inj, ← known.takeWhile_label, same, alsoKnown.takeWhile_label]
  refine ⟨solver, ?_⟩
  have characters := congrArg String.toList same
  rw [first.toList_label, second.toList_label, solver] at characters
  simpa [String.toList_inj] using characters

/-- The tasks of pairs are those of a pair and a folder. -/
theorem mem_tasksOfPairs {groups : Groups} {pairs : List (String × String)} :
    task ∈ tasksOfPairs groups pairs ↔
      (task.solver, task.strategy) ∈ pairs ∧ (task.folder, task.places) ∈ groups := by
  obtain ⟨solver, strategy, folder, places⟩ := task
  simp [tasksOfPairs, tasksOf]

/-- The tasks of known pairs over groups with one group for each folder are told apart. -/
theorem distinct_tasksOfPairs {groups : Groups} (single : (groups.map Prod.fst).Nodup)
    {pairs : List (String × String)} (knows : ∀ task ∈ tasksOfPairs groups pairs, plan.Knows task) :
    Distinct (tasksOfPairs groups pairs) := by
  intro first here second there label folder
  obtain ⟨solver, strategy⟩ := (knows first here).label_injective (knows second there) label
  obtain ⟨-, group⟩ := mem_tasksOfPairs.mp here
  obtain ⟨-, otherGroup⟩ := mem_tasksOfPairs.mp there
  have groupsSame := List.inj_on_of_nodup_map single group otherGroup folder
  obtain ⟨-, places⟩ := Prod.mk.inj groupsSame
  cases first
  cases second
  simp_all

end Clausal.Benchmark
