import Bsord.Library.Fnmatch

/-! # Running tests

`run_tests` and `_run_test` in `test.py`, and `PlanoTestCommand` around them.  What a test's function does is
given: how it ends and what it leaves behind, for each state of the world and depending on whether it is
unskipped.  That a test times out is one of the exceptions it can end with.

The output is left out.
-/

namespace Bsord.Plano

open Library

/-- Exceptions that are no `Exception`. -/
inductive BaseException where
  | keyboardInterrupt
  | other
deriving DecidableEq

/-- How a function ends: `skipped` is a `PlanoTestSkipped`, `exception` any other `Exception`. -/
inductive Outcome where
  | returns
  | skipped
  | exception
  | systemExit
  | raises (exception : BaseException)
deriving DecidableEq

structure Test where
  name : String
  disabled : Bool
deriving DecidableEq

/-- A module; `planoTests` is `none` where it has no `_plano_tests`. -/
structure Module where
  planoTests : Option (List Test)

/-- What `run_tests` takes for patterns. -/
inductive Patterns where
  | string (pattern : String)
  | list (patterns : List String)

structure Options where
  include_ : Patterns
  exclude : Patterns
  enable : Patterns
  unskip : Patterns
  failFast : Bool

structure TestRun where
  failFast : Bool
  tests : List Test
  skippedTests : List Test
  failedTests : List Test
  passedTests : List Test
deriving DecidableEq

/-- What `run_tests` does in the end. -/
inductive Result where
  | returns
  | planoError (message : String)
  | raises (exception : BaseException)
deriving DecidableEq

variable {World : Type}

/-! ## The patterns -/

def Patterns.tuple : Patterns → List String
  | string pattern => [pattern]
  | list patterns => patterns

/-- `for x in patterns`: of a string, its characters. -/
def Patterns.iterate : Patterns → List String
  | string pattern => pattern.toList.map String.singleton
  | list patterns => patterns

def matchesAny (name : String) (patterns : List String) : Bool := patterns.any (fnmatchcase name)

def Options.enabling (options : Options) : List String :=
  match options.unskip with
  | .string pattern => [pattern]
  | .list _ => options.enable.tuple

def Options.enabled (options : Options) (test : Test) : Bool :=
  !(test.disabled && !matchesAny test.name options.enabling)

def Options.included (options : Options) (test : Test) : Bool :=
  matchesAny test.name options.include_.tuple && !matchesAny test.name options.exclude.tuple

def Options.unskipped (options : Options) (test : Test) : Bool := matchesAny test.name options.unskip.iterate

/-! ## The run -/

/-- `Test.__call__`. -/
def Test.call (function : Test → Bool → World → Outcome × World) (test : Test) (unskipped : Bool) (world : World) :
    Outcome × World :=
  match function test unskipped world with
  | (.systemExit, world) => (.exception, world)
  | ended => ended

/-- `_run_test`: what it returns or raises, where `false` is `None`. -/
def runTest (function : Test → Bool → World → Outcome × World) (testRun : TestRun) (test : Test) (unskipped : Bool)
    (world : World) : Except BaseException Bool × TestRun × World :=
  match test.call function unskipped world with
  | (.raises exception, world) => (.error exception, testRun, world)
  | (.skipped, world) => (.ok false, { testRun with skippedTests := testRun.skippedTests ++ [test] }, world)
  | (.returns, world) => (.ok false, { testRun with passedTests := testRun.passedTests ++ [test] }, world)
  | (_, world) => (.ok testRun.failFast, { testRun with failedTests := testRun.failedTests ++ [test] }, world)

/-- The loop over the tests of a module, with the exception that ends it. -/
def runModule (function : Test → Bool → World → Outcome × World) (options : Options) :
    List Test → TestRun → World → Option BaseException × TestRun × World
  | [], testRun, world => (none, testRun, world)
  | test :: tests, testRun, world =>
    if options.enabled test && options.included test then
      match runTest function { testRun with tests := testRun.tests ++ [test] } test (options.unskipped test) world with
      | (.error exception, testRun, world) => (some exception, testRun, world)
      | (.ok _, testRun, world) => runModule function options tests testRun world
    else runModule function options tests testRun world

/-- The loop over the modules. -/
def runModules (function : Test → Bool → World → Outcome × World) (options : Options) :
    List Module → TestRun → World → Option BaseException × TestRun × World
  | [], testRun, world => (none, testRun, world)
  | module :: modules, testRun, world =>
    match module.planoTests with
    | none => runModules function options modules testRun world
    | some tests =>
      match runModule function options tests testRun world with
      | (some exception, testRun, world) => (some exception, testRun, world)
      | (none, testRun, world) => runModules function options modules testRun world

def resultMessage (testRun : TestRun) : String :=
  toString testRun.failedTests.length ++ (if testRun.failedTests.length = 1 then " test" else " tests") ++ " failed" ++
    if testRun.skippedTests.length = 0 then "" else " (" ++ toString testRun.skippedTests.length ++ " skipped)"

/-- `run_tests`. -/
def runTests (function : Test → Bool → World → Outcome × World) (options : Options) (modules : List Module)
    (world : World) : Result × TestRun × World :=
  match runModules function options modules ⟨options.failFast, [], [], [], []⟩ world with
  | (some exception, testRun, world) => (.raises exception, testRun, world)
  | (none, testRun, world) =>
    if testRun.tests.length = 0 then (.planoError "No tests ran", testRun, world)
    else if testRun.failedTests.length = 0 then (.returns, testRun, world)
    else (.planoError (resultMessage testRun), testRun, world)

/-- `PlanoTestCommand.run`, when the tests are not just listed. -/
def runIterations (function : Test → Bool → World → Outcome × World) (options : Options) (modules : List Module) :
    Nat → World → Result × World
  | 0, world => (.returns, world)
  | iterations + 1, world =>
    match runTests function options modules world with
    | (.returns, _, world) => runIterations function options modules iterations world
    | (result, _, world) => (result, world)

/-- The exit status of `PlanoTestCommand.main`: a `PlanoError` is passed on to `exit`, a `KeyboardInterrupt` is
    not. -/
def exitStatus (function : Test → Bool → World → Outcome × World) (options : Options) (modules : List Module)
    (iterations : Nat) (world : World) : Nat :=
  match (runIterations function options modules iterations world).1 with
  | .returns => 0
  | .raises .keyboardInterrupt => 0
  | .planoError _ => 1
  | .raises .other => 1

end Bsord.Plano
