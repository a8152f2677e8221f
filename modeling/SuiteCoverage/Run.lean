import SuiteCoverage.Pathname

/-!
# Test suites and their runs

A test is an executable with a name, and a suite lists its tests in the order of their names.
Names are compared by their characters, and tests of one name stay in the order they were
given in.

A run is what came of every test of a suite, in the order they ran in. It is successful if every
test passed, and a run without tests is.
-/

set_option autoImplicit false

namespace SuiteCoverage

/-! ## Suites -/

/-- A test: its name in reports, and the executable to run. -/
structure TestCase where
  name : String
  path : Pathname
deriving DecidableEq, Repr

/-- Tests in the order of their names. -/
structure Suite where
  cases : List TestCase
deriving DecidableEq, Repr

/-- The pattern that the names of tests match unless another is given. -/
def TestCase.usualPattern : String := "test_*"

namespace Suite

/-- The suite of some tests. -/
def ofCases (cases : List TestCase) : Suite :=
  ⟨cases.mergeSort fun a b => (compare a.name b.name).isLE⟩

/-- The number of tests. -/
def size (suite : Suite) : Nat := suite.cases.length

/-- Whether there are no tests. -/
def isEmpty (suite : Suite) : Bool := suite.cases.isEmpty

/-- What the tests run. -/
def executables (suite : Suite) : List Pathname := suite.cases.map (·.path)

end Suite

/-!
## Verbosity

How much is written about tests while they run.
-/

/-- How much is written while tests run. -/
inductive Verbosity where
  /-- Nothing; a summary follows. -/
  | quiet
  /-- A character for every test. -/
  | progress
  /-- A line for every test. -/
  | verbose
deriving DecidableEq, Repr

/-- The verbosity that two switches ask for; being verbose wins. -/
def Verbosity.ofSwitches (verbose quiet : Bool) : Verbosity :=
  if verbose then .verbose else if quiet then .quiet else .progress

/-! ## Runs -/

/-- What came of a test. -/
inductive Verdict where
  | passed
  /-- It ended by itself and reported failure. -/
  | failed
  /-- It could not be started, or a signal ended it. -/
  | errored
deriving DecidableEq, Repr

namespace Verdict

/-- The character that shows a verdict while tests run. -/
def mark : Verdict → Char
  | passed => '.'
  | failed => 'F'
  | errored => 'E'

/-- The word that shows a verdict. -/
def label : Verdict → String
  | passed => "ok"
  | failed => "FAIL"
  | errored => "ERROR"

end Verdict

/-- What came of a test, and what it wrote; for a test that could not be started, why. -/
structure Outcome where
  name : String
  verdict : Verdict
  output : String
deriving DecidableEq, Repr

/-- What came of every test. -/
structure Run where
  outcomes : List Outcome
deriving DecidableEq, Repr

/-- Whether the outcome of the tests decides the exit status. -/
inductive ExitPolicy where
  /-- The run succeeds whenever it gets to its end. -/
  | ignoreFailures
  /-- The run fails if a test does. -/
  | failOnFailure
deriving DecidableEq, Repr

namespace Run

/-- The number of tests with the given verdict. -/
def count (run : Run) (verdict : Verdict) : Nat :=
  run.outcomes.countP fun outcome => outcome.verdict == verdict

/-- The number of tests. -/
def size (run : Run) : Nat := run.outcomes.length

/-- Whether no test failed and none broke. -/
def isSuccessful (run : Run) : Bool :=
  run.count .failed == 0 && run.count .errored == 0

/-- The exit status of the program after a run. -/
def exitCode (run : Run) : ExitPolicy → Nat
  | .ignoreFailures => 0
  | .failOnFailure => if run.isSuccessful then 0 else 1

end Run
end SuiteCoverage
