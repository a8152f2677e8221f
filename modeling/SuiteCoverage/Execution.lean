import SuiteCoverage.Launch
import SuiteCoverage.Text.Decoding
import SuiteCoverage.Transcript

/-!
# Running the tests

The tests of a suite are run one after the other, in the order of the suite, each as a program
of its own. What it wrote, first to its output and then to its error stream, is kept. The
console is told what goes on; a console that does not take it changes nothing about the tests.
-/

set_option autoImplicit false

namespace SuiteCoverage

/-- What came of a test that ended so: a status tells whether it passed, a signal never does. -/
def Verdict.ofEnding : Ending → Verdict
  | .status 0 => .passed
  | .status _ => .failed
  | .signal _ => .errored

/-- What a program wrote, as text: its output before its error stream, and a line about the
    signal if one ended it. -/
def Finish.transcript (finish : Finish) : String :=
  Text.decodeLenient finish.output ++ Text.decodeLenient finish.errors
    ++ match finish.ending with
      | .status _ => ""
      | .signal number => Signal.describe number ++ "\n"

namespace TestCase

/-- What came of a test whose program was launched. -/
def outcome (test : TestCase) : Except Fault Finish → Outcome
  | .ok finish => ⟨test.name, Verdict.ofEnding finish.ending, finish.transcript⟩
  | .error fault =>
    ⟨test.name, .errored,
      "failed to spawn " ++ test.path.spelling ++ ": " ++ fault.message ++ "\n"⟩

/-- Runs a test. -/
def execute (launch : Launcher) (test : TestCase) (w : World) : Outcome × World :=
  let (launched, next) := launch ⟨test.path, []⟩ w
  (test.outcome launched, next)

end TestCase

namespace Suite

variable {σ : Type}

/-- Runs tests in turn, and tells the console about each of them. -/
def runCases (launch : Launcher) (console : Stream σ) (verbosity : Verbosity) :
    List TestCase → World → σ → List Outcome × World × σ
  | [], w, s => ([], w, s)
  | test :: rest, w, s =>
    let s := (console.send (Transcript.started verbosity test.name) s).2
    let (outcome, w) := test.execute launch w
    let s := (console.send (Transcript.finished verbosity outcome.verdict) s).2
    let (outcomes, w, s) := runCases launch console verbosity rest w s
    (outcome :: outcomes, w, s)

/-- Runs a suite and sums up what came of it. -/
def run (launch : Launcher) (console : Stream σ) (suite : Suite) (verbosity : Verbosity)
    (w : World) (s : σ) : Run × World × σ :=
  let (outcomes, w, s) := runCases launch console verbosity suite.cases w s
  let run : Run := ⟨outcomes⟩
  let s := (console.send (Transcript.allFinished verbosity suite) s).2
  let s := (console.send (Transcript.summary run w.clock.elapsed) s).2
  (run, w, s)

end Suite
end SuiteCoverage
