import Bsord.Plano.TestRun

/-! # What a test run reports

The tests that a run selects, in the order of the modules, are run one after the other until one of them ends
with an exception that is no `Exception`.  A run is compared with that history, which has no accumulator, no
modules and no way to stop at a failure.
-/

namespace Bsord.Plano

open Library

abbrev History := List (Test × Outcome)

def Options.selects (options : Options) (test : Test) : Bool := options.enabled test && options.included test

/-- The tests that run, unless one of them ends the run. -/
def selected (options : Options) (modules : List Module) : List Test :=
  (modules.flatMap fun module => module.planoTests.getD []).filter options.selects

theorem mem_selected {options : Options} {modules : List Module} {test : Test}
    (member : test ∈ selected options modules) :
    ∃ module ∈ modules, ∃ tests ∈ module.planoTests, test ∈ tests := by
  rw [selected, List.mem_filter, List.mem_flatMap] at member
  obtain ⟨⟨module, present, owned⟩, -⟩ := member
  refine ⟨module, present, ?_⟩
  cases own : module.planoTests with
  | none => simp [own] at owned
  | some tests => exact ⟨tests, rfl, by simpa [own] using owned⟩

variable {World : Type}

def history (function : Test → Bool → World → Outcome × World) (options : Options) :
    List Test → World → History × World
  | [], world => ([], world)
  | test :: tests, world =>
    match test.call function (options.unskipped test) world with
    | (.raises exception, world) => ([(test, .raises exception)], world)
    | (outcome, world) =>
      let later := history function options tests world
      ((test, outcome) :: later.1, later.2)

namespace History

def tests (ran : History) : List Test := ran.map Prod.fst

def ended (ran : History) (outcome : Outcome) : List Test := (ran.filter (·.2 = outcome)).map Prod.fst

def raised : History → Option BaseException
  | [] => none
  | (_, .raises exception) :: _ => some exception
  | (_, _) :: ran => raised ran

def added (ran : History) (testRun : TestRun) : TestRun where
  failFast := testRun.failFast
  tests := testRun.tests ++ ran.tests
  skippedTests := testRun.skippedTests ++ ran.ended .skipped
  failedTests := testRun.failedTests ++ ran.ended .exception
  passedTests := testRun.passedTests ++ ran.ended .returns

def verdict (ran : History) : Result :=
  match ran.raised with
  | some exception => .raises exception
  | none =>
    if ran = [] then .planoError "No tests ran"
    else if ran.ended .exception = [] then .returns
    else .planoError (resultMessage (ran.added ⟨false, [], [], [], []⟩))

/-- Some tests ran, and each of them returned or was skipped. -/
def Passed (ran : History) : Prop := ran ≠ [] ∧ ∀ test ∈ ran, test.2 = .returns ∨ test.2 = .skipped

def Interrupted (ran : History) : Prop := ran.raised = some .keyboardInterrupt

@[simp] theorem tests_nil : tests [] = [] := rfl

@[simp] theorem tests_cons (test : Test) (outcome : Outcome) (ran : History) :
    tests ((test, outcome) :: ran) = test :: ran.tests := rfl

@[simp] theorem ended_nil (outcome : Outcome) : ended [] outcome = [] := rfl

@[simp] theorem ended_cons (test : Test) (how outcome : Outcome) (ran : History) :
    ended ((test, how) :: ran) outcome = if how = outcome then test :: ran.ended outcome else ran.ended outcome := by
  by_cases same : how = outcome <;> simp [ended, same]

@[simp] theorem added_nil (testRun : TestRun) : added [] testRun = testRun := by simp [added]

end History

theorem call_ne_systemExit (function : Test → Bool → World → Outcome × World) (test : Test) (unskipped : Bool)
    (world : World) : (test.call function unskipped world).1 ≠ .systemExit := by
  rw [Test.call]
  split
  · simp
  · rename_i other
    intro systemExit
    exact other _ (Prod.ext systemExit rfl)

/-! ## The loops -/

section
variable (function : Test → Bool → World → Outcome × World) (options : Options)

theorem runModule_append (before after : List Test) (testRun : TestRun) (world : World) :
    runModule function options (before ++ after) testRun world =
      match runModule function options before testRun world with
      | (some exception, testRun, world) => (some exception, testRun, world)
      | (none, testRun, world) => runModule function options after testRun world := by
  induction before generalizing testRun world with
  | nil => rfl
  | cons test before ih =>
    simp only [List.cons_append, runModule]
    split
    · split
      · rfl
      · exact ih _ _
    · exact ih _ _

theorem runModules_flatMap (modules : List Module) (testRun : TestRun) (world : World) :
    runModules function options modules testRun world =
      runModule function options (modules.flatMap fun module => module.planoTests.getD []) testRun world := by
  induction modules generalizing testRun world with
  | nil => rfl
  | cons module modules ih =>
    rw [List.flatMap_cons, runModule_append, runModules]
    cases module.planoTests with
    | none => exact ih testRun world
    | some tests =>
      simp only [Option.getD_some]
      rcases runModule function options tests testRun world with ⟨_ | exception, testRun, world⟩
      · exact ih testRun world
      · rfl

theorem runModule_filter (tests : List Test) (testRun : TestRun) (world : World) :
    runModule function options tests testRun world =
      runModule function options (tests.filter options.selects) testRun world := by
  induction tests generalizing testRun world with
  | nil => rfl
  | cons test tests ih =>
    by_cases selects : options.selects test
    · rw [List.filter_cons_of_pos selects, runModule, runModule]
      simp only [ih]
    · rw [List.filter_cons_of_neg selects, runModule, ih]
      exact if_neg selects

theorem runModule_history (tests : List Test) (selects : ∀ test ∈ tests, options.selects test) (testRun : TestRun)
    (world : World) :
    runModule function options tests testRun world =
      let ran := history function options tests world
      (ran.1.raised, ran.1.added testRun, ran.2) := by
  induction tests generalizing testRun world with
  | nil => simp [runModule, history, History.raised]
  | cons test tests ih =>
    have chosen : (options.enabled test && options.included test) = true := selects test (by simp)
    have later := ih fun test member => selects test (by simp [member])
    simp only [runModule, chosen, if_true, runTest, history]
    -- how the test ends decides the list it goes to, and only an exception that is no `Exception` ends the loop
    generalize called : test.call function (options.unskipped test) world = result
    match result with
    | (.raises exception, left) => simp [History.raised, History.added, History.tests, History.ended]
    | (.skipped, left) =>
      simp [later, History.raised, History.added]
    | (.returns, left) =>
      simp [later, History.raised, History.added]
    | (.exception, left) =>
      simp [later, History.raised, History.added]
    | (.systemExit, left) => exact absurd (by rw [called]) (call_ne_systemExit function test _ world)

end

theorem runTests_history (function : Test → Bool → World → Outcome × World) (options : Options)
    (modules : List Module) (world : World) :
    runTests function options modules world =
      let ran := history function options (selected options modules) world
      (ran.1.verdict, ran.1.added ⟨options.failFast, [], [], [], []⟩, ran.2) := by
  have loops : runModules function options modules ⟨options.failFast, [], [], [], []⟩ world =
      let ran := history function options (selected options modules) world
      (ran.1.raised, ran.1.added ⟨options.failFast, [], [], [], []⟩, ran.2) := by
    rw [runModules_flatMap, runModule_filter]
    exact runModule_history function options _ (by simp) _ world
  rw [runTests, loops]
  generalize history function options (selected options modules) world = ran
  simp only [History.verdict]
  cases ran.1.raised with
  | some exception => rfl
  | none =>
    simp only [History.added, List.nil_append, List.length_eq_zero_iff, History.tests, List.map_eq_nil_iff]
    split
    · rfl
    · split
      · rfl
      · rfl

theorem history_congr (function : Test → Bool → World → Outcome × World) (options others : Options)
    {tests : List Test} (unskipped : ∀ test ∈ tests, options.unskipped test = others.unskipped test) (world : World) :
    history function options tests world = history function others tests world := by
  induction tests generalizing world with
  | nil => rfl
  | cons test tests ih =>
    have later := ih fun test member => unskipped test (by simp [member])
    simp only [history, unskipped test (by simp), later]

theorem history_tests (function : Test → Bool → World → Outcome × World) (options : Options) (tests : List Test)
    (world : World) :
    let ran := (history function options tests world).1
    ran.tests <+: tests ∧ (ran.raised = none → ran.tests = tests) := by
  induction tests generalizing world with
  | nil => simp [history]
  | cons test tests ih =>
    simp only [history]
    split
    · simp [History.raised]
    · rename_i outcome left other called
      obtain ⟨first, all⟩ := ih left
      constructor
      · simpa using first
      · intro raised
        cases outcome with
        | raises exception => exact absurd rfl (other exception)
        | _ => simpa using all raised

theorem History.raised_eq_none (ran : History) :
    ran.raised = none ↔ ∀ test ∈ ran, ∀ exception, test.2 ≠ .raises exception := by
  induction ran with
  | nil => simp [History.raised]
  | cons test ran ih =>
    obtain ⟨test, outcome⟩ := test
    cases outcome <;> simp [History.raised, ih]

theorem history_called (function : Test → Bool → World → Outcome × World) (options : Options) (tests : List Test)
    (world : World) : ∀ test ∈ (history function options tests world).1, test.2 ≠ .systemExit := by
  induction tests generalizing world with
  | nil => simp [history]
  | cons test tests ih =>
    simp only [history]
    split
    · simp
    · rename_i outcome left other called
      intro entry member
      rcases List.mem_cons.mp member with rfl | member
      · have ended := call_ne_systemExit function test (options.unskipped test) world
        rwa [called] at ended
      · exact ih left entry member

theorem History.passed_iff {ran : History} (called : ∀ test ∈ ran, test.2 ≠ .systemExit) :
    ran.Passed ↔ ran.verdict = .returns := by
  have failed : ran.ended .exception = [] ↔ ∀ test ∈ ran, test.2 ≠ .exception := by
    simp [History.ended]
  rw [History.verdict]
  constructor
  · rintro ⟨some, passed⟩
    have none : ran.raised = none := by
      rw [ran.raised_eq_none]
      intro test member exception
      rcases passed test member with ended | ended <;> simp [ended]
    have successes : ran.ended .exception = [] := by
      rw [failed]
      intro test member
      rcases passed test member with ended | ended <;> simp [ended]
    simp [none, some, successes]
  · intro verdict
    split at verdict
    · cases verdict
    · rename_i none
      rw [ran.raised_eq_none] at none
      split at verdict
      · cases verdict
      · rename_i some
        split at verdict
        · rename_i successes
          rw [failed] at successes
          refine ⟨some, fun test member => ?_⟩
          have ended := And.intro (called test member) (And.intro (none test member) (successes test member))
          cases how : test.2 <;> simp_all
        · cases verdict

theorem History.interrupted_iff (ran : History) : ran.Interrupted ↔ ran.verdict = .raises .keyboardInterrupt := by
  rw [History.Interrupted, History.verdict]
  split
  · rename_i exception raised
    simp [raised]
  · rename_i none
    simp only [none, reduceCtorEq, false_iff]
    split
    · simp
    · split <;> simp

/-- The world before an iteration, when the tests of all iterations before it pass. -/
def worldBefore (function : Test → Bool → World → Outcome × World) (options : Options) (modules : List Module)
    (world : World) : Nat → World
  | 0 => world
  | iteration + 1 =>
    (history function options (selected options modules) (worldBefore function options modules world iteration)).2

def iterated (function : Test → Bool → World → Outcome × World) (options : Options) (modules : List Module)
    (world : World) (iteration : Nat) : History :=
  (history function options (selected options modules) (worldBefore function options modules world iteration)).1

section
variable (function : Test → Bool → World → Outcome × World) (options : Options) (modules : List Module)

theorem worldBefore_succ (world : World) (iteration : Nat) :
    worldBefore function options modules world (iteration + 1) =
      worldBefore function options modules (history function options (selected options modules) world).2 iteration := by
  induction iteration with
  | zero => rfl
  | succ iteration ih => rw [worldBefore, ih, worldBefore]

/-- An iteration after the first is one of the run that starts where the first ends. -/
theorem iterated_succ (world : World) (iteration : Nat) :
    iterated function options modules world (iteration + 1) =
      iterated function options modules (history function options (selected options modules) world).2 iteration := by
  rw [iterated, worldBefore_succ, iterated]

theorem exitStatus_zero (world : World) : exitStatus function options modules 0 world = 0 := rfl

theorem exitStatus_succ (iterations : Nat) (world : World) :
    let ran := history function options (selected options modules) world
    exitStatus function options modules (iterations + 1) world =
      match ran.1.verdict with
      | .returns => exitStatus function options modules iterations ran.2
      | .raises .keyboardInterrupt => 0
      | _ => 1 := by
  intro ran
  rw [exitStatus, runIterations, runTests_history]
  simp only [ran]
  generalize history function options (selected options modules) world = ran
  rcases ran.1.verdict with _ | message | exception
  · rfl
  · rfl
  · cases exception <;> rfl

end

theorem passed_or_interrupted_succ (passed interrupted : Nat → Prop) (iterations : Nat) :
    ((∀ iteration < iterations + 1, passed iteration) ∨
      ∃ iteration < iterations + 1, (∀ before < iteration, passed before) ∧ interrupted iteration) ↔
    interrupted 0 ∨ passed 0 ∧
      ((∀ iteration < iterations, passed (iteration + 1)) ∨
        ∃ iteration < iterations, (∀ before < iteration, passed (before + 1)) ∧ interrupted (iteration + 1)) := by
  simp only [Nat.forall_lt_succ_left, Nat.exists_lt_succ_left, Nat.not_lt_zero, false_implies, implies_true,
    true_and]
  constructor
  · rintro (⟨first, later⟩ | interrupt | ⟨iteration, bound, ⟨first, before⟩, interrupt⟩)
    · exact .inr ⟨first, .inl later⟩
    · exact .inl interrupt
    · exact .inr ⟨first, .inr ⟨iteration, bound, before, interrupt⟩⟩
  · rintro (interrupt | ⟨first, later | ⟨iteration, bound, before, interrupt⟩⟩)
    · exact .inr (.inl interrupt)
    · exact .inl ⟨first, later⟩
    · exact .inr (.inr ⟨iteration, bound, ⟨first, before⟩, interrupt⟩)

/-- `main` exits with 0 if the tests of each iteration passed, but also when one is interrupted from the keyboard,
    whatever has failed in it by then. -/
theorem exits_with_zero (function : Test → Bool → World → Outcome × World) (options : Options)
    (modules : List Module) (iterations : Nat) (world : World) :
    exitStatus function options modules iterations world = 0 ↔
      (∀ iteration < iterations, (iterated function options modules world iteration).Passed) ∨
      ∃ iteration < iterations,
        (∀ before < iteration, (iterated function options modules world before).Passed) ∧
        (iterated function options modules world iteration).Interrupted := by
  induction iterations generalizing world with
  | zero => simp [exitStatus_zero]
  | succ iterations ih =>
    have called := history_called function options (selected options modules) world
    rw [passed_or_interrupted_succ]
    simp only [iterated_succ, ← ih]
    rw [exitStatus_succ]
    change _ ↔ (history function options (selected options modules) world).1.Interrupted ∨
      (history function options (selected options modules) world).1.Passed ∧ _
    rw [History.passed_iff called, History.interrupted_iff]
    -- only a verdict of the first iteration that returns leads to the others
    cases (history function options (selected options modules) world).1.verdict with
    | returns => simp
    | planoError message => simp
    | raises exception => cases exception <;> simp

/-! ## Patterns for unskipping -/

/-- A string given for the tests to unskip is read as its characters, of which only `*` matches longer names. -/
theorem unskipped_string {options : Options} {pattern : String} (string : options.unskip = .string pattern)
    {test : Test} (long : 2 ≤ test.name.length) :
    options.unskipped test = decide ('*' ∈ pattern.toList) := by
  rw [Options.unskipped, string, Bool.eq_iff_iff]
  simp only [matchesAny, Patterns.iterate, List.any_map, List.any_eq_true, Function.comp_apply,
    fnmatchcase_singleton long, decide_eq_true_eq]
  constructor
  · rintro ⟨c, member, rfl⟩
    exact member
  · intro member
    exact ⟨'*', member, rfl⟩

theorem unskipped_list {options : Options} {patterns : List String} (list : options.unskip = .list patterns)
    (test : Test) : options.unskipped test = matchesAny test.name patterns := by
  rw [Options.unskipped, list]
  rfl

/-- A string given for the tests to unskip stands in for the tests to enable instead, and unskips either all
    tests with longer names or none. -/
theorem runs_unskipping (function : Test → Bool → World → Outcome × World) (options : Options) (pattern : String)
    (modules : List Module) (names : ∀ module ∈ modules, ∀ tests ∈ module.planoTests, ∀ test ∈ tests,
      2 ≤ test.name.length) (world : World) :
    runTests function { options with unskip := .string pattern } modules world =
      runTests function { options with
        enable := .string pattern
        unskip := .list (if '*' ∈ pattern.toList then ["*"] else []) } modules world := by
  have long : ∀ test ∈ selected { options with unskip := .string pattern } modules, 2 ≤ test.name.length := by
    intro test member
    obtain ⟨module, present, tests, own, owned⟩ := mem_selected member
    exact names module present tests own test owned
  -- The two runs unskip the same tests, and nothing else is read of the two options.
  have same : history function { options with unskip := .string pattern }
      (selected { options with unskip := .string pattern } modules) world =
    history function { options with
        enable := .string pattern
        unskip := .list (if '*' ∈ pattern.toList then ["*"] else []) }
      (selected { options with unskip := .string pattern } modules) world := by
    apply history_congr
    intro test member
    rw [unskipped_string rfl (long test member), unskipped_list rfl]
    by_cases star : '*' ∈ pattern.toList
    · simp [star, matchesAny, fnmatchcase_star]
    · simp [star, matchesAny]
  rw [runTests_history, runTests_history, same]
  rfl

theorem runs_unskipping_word :
    let function (test : Test) (unskipped : Bool) (world : Nat) : Outcome × Nat :=
      (if test.name = "slow" && !unskipped then .skipped else .returns, world + 1)
    let options (enable unskip : Patterns) : Options := ⟨.string "*", .list [], enable, unskip, false⟩
    runTests function (options (.list []) (.string "slow")) [⟨some [⟨"quick", false⟩, ⟨"slow", false⟩]⟩] 0 =
      runTests function (options (.string "slow") (.list [])) [⟨some [⟨"quick", false⟩, ⟨"slow", false⟩]⟩] 0 ∧
    (runTests function (options (.list []) (.string "slow")) [⟨some [⟨"quick", false⟩, ⟨"slow", false⟩]⟩] 0).2.1 =
      ⟨false, [⟨"quick", false⟩, ⟨"slow", false⟩], [⟨"slow", false⟩], [], [⟨"quick", false⟩]⟩ :=
  ⟨runs_unskipping _ ⟨.string "*", .list [], .list [], .list [], false⟩ "slow" _ (by simp +decide) 0, by decide⟩

end Bsord.Plano
