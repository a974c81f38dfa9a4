import Mathlib
import Clausal.CommandLine
import Clausal.Proofs.Budgets
import Clausal.Proofs.ClauseReading

/-!
# When a run ends with an exit status

A file that cannot be read ends a run with status two and a line that says why, but only if it cannot
be found or opened or its text is malformed. Bytes that are not UTF-8, packed bytes that cannot be
unpacked or end too early, numbers with too many digits and a path with the end mark in it are told to
nobody: they end the run without an exit status.

A file that can be read leads to an exit status, as long as everything that a search needs was given and
the timeout is a double when counted in seconds.
-/

namespace Clausal

namespace Round

variable {state result : Type} {round : state → Round state result}

/-- What a round keeps, and tells of its result when it ends, counted rounds keep and tell. -/
theorem counted_keeps (Kept : state → Prop) (Ended : result → Prop)
    (running : ∀ current next, Kept current → round current = .running next → Kept next)
    (finished : ∀ current value, Kept current → round current = .finished value → Ended value)
    (count : Nat) {current : state} (kept : Kept current) :
    (∀ next, counted round count current = .running next → Kept next) ∧
      ∀ value, counted round count current = .finished value → Ended value := by
  induction count generalizing current with
  | zero => simpa [counted] using kept
  | succ count ih =>
    rw [counted]
    cases turn : round current with
    | running next => exact ih (running current next kept turn)
    | finished value => simpa using finished current value kept turn

end Round

/-- A double can be added to every number that is not past all of them. -/
theorem Number.exists_add? {left : Number} (small : left.isTooLarge = false) (right : Float) :
    ∃ sum, left.add? (.real right) = some sum := by
  have double : (Number.real right).isTooLarge = false := rfl
  cases left <;> simp [add?, small, double]

/-- The clock shows nothing past every double. -/
def Clock.Timely (clock : Clock) : Prop :=
  ∀ reading, (clock.time reading).isTooLarge = false

namespace Budget

/-- Looking for a passed deadline goes on with the same clock. -/
theorem time_readDeadline (deadline : Option Number) (clock : Clock) :
    (readDeadline deadline clock).2.time = clock.time := by
  cases deadline <;> rfl

/-- One round of a search under a budget goes on with the same clock. -/
theorem time_round (budget : Budget) (deadline : Option Number) (run : Run) :
    (∀ next, budget.round deadline run = .running next → next.clock.time = run.clock.time) ∧
      ∀ finished, budget.round deadline run = .finished finished →
        finished.run.clock.time = run.clock.time := by
  have same := time_readDeadline deadline run.clock
  unfold round
  split
  · exact ⟨by simp, by rintro _ ⟨⟩; rfl⟩
  · split
    · exact ⟨by simp, by rintro _ ⟨⟩; rfl⟩
    · dsimp only
      split
      · exact ⟨by simp, by rintro _ ⟨⟩; exact same⟩
      · split
        · exact ⟨by simp, by rintro _ ⟨⟩; exact same⟩
        · exact ⟨by rintro _ ⟨⟩; exact same, by simp⟩

/-- Finding a deadline goes on with the same clock. -/
theorem time_deadline (budget : Budget) (clock : Clock) :
    (budget.deadline clock).2.time = clock.time := by
  unfold deadline
  split
  · rfl
  · dsimp only
    split <;> rfl

/-- A search under a budget leaves the same clock. -/
theorem time_drive (budget : Budget) (clock : Clock) (solver : Solver) :
    (budget.drive clock solver).run.clock.time = clock.time := by
  have start := budget.time_deadline clock
  rcases shape : budget.deadline clock with ⟨told, later⟩
  rw [shape] at start
  simp only [drive, shape]
  cases told with
  | error fault => exact start
  | ok limit =>
    have kept := Round.counted_keeps (fun run => run.clock.time = clock.time)
      (fun finished => finished.run.clock.time = clock.time)
      (fun run next before turn => ((budget.time_round limit run).1 next turn).trans before)
      (fun run value before turn => ((budget.time_round limit run).2 value turn).trans before)
      (Nat.pow 2 (Solver.doublings solver.formula.numVars) - 1)
      (show (⟨solver, later, []⟩ : Run).clock.time = clock.time from start)
    dsimp only
    rw [Round.within_eq_counted]
    split
    · exact kept.1 _ ‹_›
    · exact kept.2 _ ‹_›

/-- A deadline in doubles can be told wherever the clock shows nothing past every double. -/
theorem deadline_ne_error {budget : Budget} {clock : Clock}
    (real : ∀ seconds, budget.timeout = some seconds → ∃ value, seconds = .real value)
    (timely : clock.Timely) (fault : Fault) : (budget.deadline clock).1 ≠ .error fault := by
  unfold deadline
  split
  · simp
  · rename_i seconds timed
    obtain ⟨value, rfl⟩ := real seconds timed
    obtain ⟨sum, added⟩ := Number.exists_add? (timely clock.readings) value
    simp [Clock.read, added]

end Budget

namespace CommandLine

variable {settings : Settings} {problem : Dimacs.Problem}

/-- Everything that a search needs was given, and the timeout is a double in seconds. -/
structure Settings.Usable (settings : Settings) : Prop where
  /-- A variant was given. -/
  variant : settings.variant ≠ .nothing
  /-- A strategy was given. -/
  strategy : settings.strategy ≠ .nothing
  /-- A scheme of propagation was given. -/
  propagation : settings.propagation ≠ .nothing
  /-- The timeout is a double in seconds. -/
  timeout : ∀ milliseconds, settings.timeout = some milliseconds →
    (Binary64.ofQuotient milliseconds 1000).isInf = false

/-! ## Preparing a search -/

/-- A timeout that is a double in seconds makes a budget; any other is refused. -/
theorem Settings.budget_cases (settings : Settings) :
    (∃ budget, settings.budget = .ok budget ∧
      (∀ seconds, budget.timeout = some seconds → ∃ value, seconds = .real value) ∧
      ∀ milliseconds, settings.timeout = some milliseconds →
        (Binary64.ofQuotient milliseconds 1000).isInf = false) ∨
    settings.budget = .error .timeoutTooLarge ∧ ∃ milliseconds,
      settings.timeout = some milliseconds ∧
        (Binary64.ofQuotient milliseconds 1000).isInf = true := by
  unfold Settings.budget
  cases settings.timeout with
  | none => exact .inl ⟨⟨none, none⟩, rfl, by simp, by simp⟩
  | some milliseconds =>
    cases large : (Binary64.ofQuotient milliseconds 1000).isInf with
    | true => exact .inr ⟨by simp [large], milliseconds, rfl, large⟩
    | false =>
      refine .inl ⟨⟨some (.real (Binary64.ofQuotient milliseconds 1000)), none⟩, by simp [large],
        ?_, ?_⟩
      · rintro _ ⟨⟩
        exact ⟨_, rfl⟩
      · rintro _ ⟨⟩
        exact large

/-- A variant that is to be run can be configured, or it is refused for lack of a choice. -/
theorem Settings.configuration_cases {variant : Given Variant}
    (asked : variant ∈ settings.variants) :
    (∃ configuration, settings.configuration variant = .ok configuration ∧
      settings.variant ≠ .nothing ∧ settings.strategy ≠ .nothing ∧
      settings.propagation ≠ .nothing) ∨
    ∃ fault, settings.configuration variant = .error fault ∧ fault.isMalformedClause = false ∧
      ¬settings.Usable := by
  unfold Settings.variants at asked
  cases chosen : settings.variant with
  | nothing =>
    rw [chosen] at asked
    obtain rfl := List.mem_singleton.1 asked
    exact .inr ⟨_, rfl, rfl, fun usable => usable.variant chosen⟩
  | value choice =>
    rw [chosen] at asked
    obtain ⟨variant, _, rfl⟩ := List.mem_map.1 asked
    unfold Settings.configuration
    cases scheme : settings.propagation with
    | nothing => exact .inr ⟨_, rfl, rfl, fun usable => usable.propagation scheme⟩
    | value propagation =>
      cases order : settings.strategy with
      | nothing => exact .inr ⟨_, rfl, rfl, fun usable => usable.strategy order⟩
      | value strategy => exact .inl ⟨_, rfl, by simp, by simp, by simp⟩

/-- A problem that was read can be searched under usable settings; under others every search is
refused, for a cause that is not the shape of a clause. -/
theorem Settings.prepare_cases {formula : Formula}
    (formed : Formula.ofDimacs problem.clauses problem.numVars = .ok formula)
    {variant : Given Variant} (asked : variant ∈ settings.variants) :
    (settings.Usable ∧ ∃ configuration budget,
      settings.prepare problem variant = .ok (.fresh configuration formula, budget) ∧
      ∀ seconds, budget.timeout = some seconds → ∃ value, seconds = .real value) ∨
    ¬settings.Usable ∧ ∃ fault, settings.prepare problem variant = .error fault ∧
      fault.isMalformedClause = false := by
  rcases Settings.configuration_cases asked with
    ⟨configuration, configured, given, strategy, propagation⟩ | ⟨fault, refused, shape, unusable⟩
  · rcases settings.budget_cases with ⟨budget, limits, real, short⟩ | ⟨refused, long, timed, large⟩
    · refine .inl ⟨⟨given, strategy, propagation, short⟩, configuration, budget, ?_, real⟩
      simp [Settings.prepare, Settings.solver, formed, configured, limits, bind, Except.bind, pure,
        Except.pure]
    · refine .inr ⟨fun usable => ?_, .timeoutTooLarge, ?_, rfl⟩
      · rw [usable.timeout long timed] at large
        simp at large
      · simp [Settings.prepare, Settings.solver, formed, configured, refused, bind, Except.bind, pure,
          Except.pure]
  · refine .inr ⟨unusable, fault, ?_, shape⟩
    simp [Settings.prepare, Settings.solver, formed, refused, bind, Except.bind]

/-! ## Searching and reporting -/

/-- Under usable settings every search comes to an outcome and leaves the same clock; under others every
search is refused. -/
theorem search_cases {formula : Formula}
    (formed : Formula.ofDimacs problem.clauses problem.numVars = .ok formula)
    {variant : Given Variant} (asked : variant ∈ settings.variants) {clock : Clock}
    (timely : clock.Timely) :
    (settings.Usable ∧ (∃ run, (search settings problem variant clock).1 = .ok run) ∧
      (search settings problem variant clock).2.Timely) ∨
    ¬settings.Usable ∧ ∃ fault, (search settings problem variant clock).1 = .error fault ∧
      fault.isMalformedClause = false := by
  rcases Settings.prepare_cases formed asked with
    ⟨usable, configuration, budget, prepared, real⟩ | ⟨unusable, fault, refused, shape⟩
  · have upheld := Solver.upheld_fresh_any configuration formula
    refine .inl ⟨usable, ?_, ?_⟩
    · have later : clock.read.2.Timely := timely
      rcases budget.drive_cases clock.read.2 upheld with ⟨untold, _⟩ | ⟨deadline, _, leads⟩
      · exact absurd untold (Budget.deadline_ne_error real later _)
      · obtain ⟨outcome, found, _⟩ := leads.ending.isDone_eq
        simp only [search, prepared, VariantRun.ofFinished, found, Except.map]
        exact ⟨_, rfl⟩
    · have same : (search settings problem variant clock).2.time = clock.time := by
        simp only [search, prepared]
        exact budget.time_drive clock.read.2 _
      intro reading
      rw [same]
      exact timely reading
  · refine .inr ⟨unusable, fault, ?_, shape⟩
    simp only [search, refused]

/-- Under usable settings all searches come to an outcome. -/
theorem Settings.Usable.searchAll (usable : settings.Usable) {formula : Formula}
    (formed : Formula.ofDimacs problem.clauses problem.numVars = .ok formula)
    {variants : List (Given Variant)} (asked : ∀ variant ∈ variants, variant ∈ settings.variants)
    {clock : Clock} (timely : clock.Timely) :
    ∀ result ∈ searchAll settings problem variants clock, ∃ run, result = .ok run := by
  induction variants generalizing clock with
  | nil => simp [CommandLine.searchAll]
  | cons variant rest ih =>
    obtain ⟨here, later⟩ := List.forall_mem_cons.1 asked
    rcases search_cases formed here timely with ⟨_, found, kept⟩ | ⟨unusable, _⟩
    · rw [CommandLine.searchAll]
      exact List.forall_mem_cons.2 ⟨found, ih later kept⟩
    · exact absurd usable unusable

/-- The status of a variant is zero or one. -/
theorem VariantRun.status_report_le (settings : Settings) (clauses : List (List Int))
    (run : VariantRun) : (run.report settings clauses).2 ≤ exitMismatch := by
  have either : ∀ (condition : Prop) [Decidable condition],
      (if condition then exitOk else exitMismatch) ≤ exitMismatch := by
    intro condition _
    split <;> decide
  unfold VariantRun.report
  dsimp only
  split
  · exact Nat.zero_le _
  · exact either _
  · exact either _

/-- Where every search came to an outcome the status of the run is zero or one. -/
theorem reportAll_exits {results : List (Except Fault VariantRun)}
    (found : ∀ result ∈ results, ∃ run, result = .ok run) {status : Nat}
    (low : status ≤ exitMismatch) (told : Transcript) : ∃ final ≤ exitMismatch,
      (reportAll settings problem results status told).2 = .exit final none := by
  induction results generalizing status told with
  | nil => exact ⟨status, low, rfl⟩
  | cons result rest ih =>
    obtain ⟨⟨run, rfl⟩, later⟩ := List.forall_mem_cons.1 found
    exact ih later (max_le low (run.status_report_le settings problem.clauses)) _

/-- There is always a variant to run. -/
theorem Settings.variants_ne_nil (settings : Settings) : settings.variants ≠ [] := by
  unfold Settings.variants
  split
  · simp
  · rename_i choice _
    cases choice <;> simp [VariantChoice.variants, Variant.all]

/-- Over a problem that was read, a run ends with status zero or one if its settings are usable, and
without an exit status if they are not. -/
theorem run_ending {files : Files} (accepted : Dimacs.read files settings.file = .ok problem)
    {clock : Clock} (timely : clock.Timely) :
    (settings.Usable ∧ ∃ status ≤ exitMismatch,
      (run settings files clock).2 = .exit status none) ∨
    ¬settings.Usable ∧ ∃ fault, (run settings files clock).2 = .escaped (.searching fault) := by
  obtain ⟨formula, formed⟩ := Dimacs.exists_formula accepted
  simp only [run, reportRun, accepted]
  by_cases usable : settings.Usable
  · exact .inl ⟨usable, reportAll_exits (usable.searchAll formed (fun _ member => member) timely)
      (Nat.zero_le _) _⟩
  · refine .inr ⟨usable, ?_⟩
    obtain ⟨variant, rest, cut⟩ := List.exists_cons_of_ne_nil settings.variants_ne_nil
    have asked : variant ∈ settings.variants := cut ▸ List.mem_cons_self
    rcases search_cases formed asked timely with ⟨given, _⟩ | ⟨_, fault, refused, shape⟩
    · exact absurd given usable
    · refine ⟨fault, ?_⟩
      rw [cut, CommandLine.searchAll]
      simp only [refused, reportAll, shape]
      rfl

/-! ## What is shown -/

/-- What is shown beside the output when a file is about to be read. -/
def openingLines (settings : Settings) : List String :=
  if 2 ≤ settings.verbosity then ["DEBUG satmicro: parsing " ++ settings.file] else []

/-- A file that cannot be read is told with status two, or the run ends without an exit status and
nothing about the file is shown. -/
theorem shownRun_of_error (settings : Settings) {files : Files} {fault : Dimacs.ReadFault}
    (refused : Dimacs.read files settings.file = .error fault) (clock : Clock) :
    shownRun settings (run settings files clock) =
      if isReported fault then
        ⟨[], openingLines settings ++ ["Error: " ++ fault.message], .ok exitError⟩
      else ⟨[], openingLines settings, .error (.reading fault)⟩ := by
  have opening : (LogEntry.shown settings.verbosity [.parsing settings.file]).map LogEntry.text =
      openingLines settings := by
    have needs : (LogEntry.parsing settings.file).level.needs = 2 := rfl
    unfold LogEntry.shown openingLines
    by_cases verbose : 2 ≤ settings.verbosity
    · rw [if_pos verbose, List.filter_cons_of_pos (by simpa [needs] using verbose)]
      rfl
    · rw [if_neg verbose, List.filter_cons_of_neg (by simpa [needs] using verbose)]
      rfl
  simp only [run, reportRun, refused, shownRun]
  cases isReported fault with
  | true => simp only [if_true, opening]; rfl
  | false => simp only [Bool.false_eq_true, if_false, opening]; rfl

/-- A command line that is understood shows what a run under its settings shows. -/
theorem shown_of_readArguments {words : List String} (given : readArguments words = .ok settings)
    (files : Files) (clock : Clock) :
    shown words files clock = shownRun settings (run settings files clock) := by
  rw [shown, given]

/-- A run ends with an exit status if and only if its file is read and its settings are usable, or the
fault of the file is one that is reported. A fault that is reported is told with status two; of any
other nothing is told. -/
theorem shown_exits_iff {words : List String} (given : readArguments words = .ok settings)
    (files : Files) {clock : Clock} (timely : clock.Timely) :
    ((∃ status ≤ exitError, (shown words files clock).status = .ok status) ↔
      (∀ fault, Dimacs.read files settings.file = .error fault → isReported fault = true) ∧
      ∀ problem, Dimacs.read files settings.file = .ok problem → settings.Usable) ∧
    ∀ fault, Dimacs.read files settings.file = .error fault →
      shown words files clock = if isReported fault then
        ⟨[], openingLines settings ++ ["Error: " ++ fault.message], .ok exitError⟩
      else ⟨[], openingLines settings, .error (.reading fault)⟩ := by
  rw [shown_of_readArguments given]
  refine ⟨?_, fun fault refused => shownRun_of_error settings refused clock⟩
  cases result : Dimacs.read files settings.file with
  | error fault =>
    rw [shownRun_of_error settings result]
    cases reported : isReported fault with
    | true => simp [reported, exitError]
    | false => simp [reported]
  | ok problem =>
    rcases run_ending result timely with ⟨usable, status, low, ending⟩ | ⟨unusable, fault, ending⟩
    · have exits : (shownRun settings (run settings files clock)).status = .ok status := by
        simp only [shownRun, ending]
      exact ⟨fun _ => ⟨by simp, fun _ _ => usable⟩,
        fun _ => ⟨status, low.trans (by decide), exits⟩⟩
    · simp [shownRun, ending, unusable]

/-- A run over a file that is missing tells so with status two. -/
theorem shown_exits_iff_missing :
    (∃ status ≤ exitError, (shown ["f"] .empty (.showing (.real 0))).status = .ok status) ∧
    shown ["f"] .empty (.showing (.real 0)) =
      ⟨[], ["Error: " ++ (FileFault.notFound "f").message], .ok 2⟩ := by
  have given : readArguments ["f"] = .ok { Progress.start.settings with file := "f" } := by cbv
  have missing : Dimacs.read .empty "f" = .error (.file (.notFound "f")) := by cbv
  have timely : (Clock.showing (.real 0)).Timely := fun _ => rfl
  obtain ⟨exits, told⟩ := shown_exits_iff given .empty timely
  have reported : ∀ fault, Dimacs.read .empty "f" = .error fault → isReported fault = true := by
    intro fault refused
    rw [← Except.error.inj (missing.symm.trans refused)]
    rfl
  have unread : ∀ problem, Dimacs.read .empty "f" ≠ .ok problem := by
    intro problem accepted
    simp [missing] at accepted
  exact ⟨exits.2 ⟨reported, fun problem accepted => absurd accepted (unread problem)⟩,
    told _ missing⟩

/-- A run over a file with one byte that is not UTF-8 has no exit status, and shows nothing. -/
theorem undecodable_file_escapes :
    readArguments ["f"] = .ok { Progress.start.settings with file := "f" } ∧
    Dimacs.read ⟨[(["f"], .file (.plain [0xff]))]⟩ "f" =
      .error (.file (.notUtf8 ⟨0, 1, 0xff, .invalidStart⟩)) ∧
    (shown ["f"] ⟨[(["f"], .file (.plain [0xff]))]⟩ (.showing (.real 0))).errors = [] ∧
    ∀ status, (shown ["f"] ⟨[(["f"], .file (.plain [0xff]))]⟩ (.showing (.real 0))).status ≠
      .ok status := by
  have given : readArguments ["f"] = .ok { Progress.start.settings with file := "f" } := by cbv
  have refused : Dimacs.read ⟨[(["f"], .file (.plain [0xff]))]⟩ "f" =
      .error (.file (.notUtf8 ⟨0, 1, 0xff, .invalidStart⟩)) := by cbv
  have told := shownRun_of_error { Progress.start.settings with file := "f" } refused
    (.showing (.real 0))
  rw [shown_of_readArguments given, told]
  exact ⟨given, refused, rfl, fun status => by simp [isReported, FileFault.isAccess]⟩

end CommandLine

end Clausal
