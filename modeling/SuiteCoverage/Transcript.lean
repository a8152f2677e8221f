import SuiteCoverage.Run
import SuiteCoverage.Stream

/-!
# Transcripts

What is told about the tests: a word or a character for each of them while they run, and a
summary when they have. The summary shows the output of every test that did not pass, counts the
tests, and ends with a verdict on all of them.
-/

set_option autoImplicit false

namespace SuiteCoverage
namespace Transcript

/-- The line that sets off a test. -/
def heavyRule : String := String.ofList (List.replicate 70 '=')

/-- The line that sets off what is said about a test, and the end of the summary. -/
def lightRule : String := String.ofList (List.replicate 70 '-')

/-- What is told when a test starts. -/
def started (verbosity : Verbosity) (name : String) : List Piece :=
  match verbosity with
  | .verbose => [.text (name ++ " ... "), .flush]
  | _ => []

/-- What is told when a test has come to its end. -/
def finished (verbosity : Verbosity) (verdict : Verdict) : List Piece :=
  match verbosity with
  | .verbose => [.line verdict.label]
  | .progress => [.text (String.singleton verdict.mark), .flush]
  | .quiet => []

/-- What is told when all tests have: the end of the line of characters, if there is one. -/
def allFinished (verbosity : Verbosity) (suite : Suite) : List Piece :=
  if verbosity = .progress ∧ ¬ suite.isEmpty then [.line ""] else []

/-- What is told about a test that did not pass. -/
def block (outcome : Outcome) : List Piece :=
  [.line heavyRule, .line (outcome.verdict.label ++ ": " ++ outcome.name), .line lightRule,
    .text outcome.output]
    ++ (if outcome.output.toList.getLast? = some '\n' then [] else [.line ""])
    ++ [.line ""]

/-- How many tests there were, and how long they took. -/
def countLine (run : Run) (elapsed : String) : String :=
  "Ran " ++ toString run.size ++ " test" ++ (if run.size = 1 then "" else "s") ++ " in " ++ elapsed
    ++ "s"

/-- The kinds of tests that did not pass, each with its number. -/
def failures (run : Run) : List String :=
  (if 0 < run.count .failed then ["failures=" ++ toString (run.count .failed)] else [])
    ++ (if 0 < run.count .errored then ["errors=" ++ toString (run.count .errored)] else [])

/-- The verdict on all tests. -/
def verdictLine (run : Run) : String :=
  if run.isSuccessful then "OK" else "FAILED (" ++ ", ".intercalate (failures run) ++ ")"

/-- The summary of a run. -/
def summary (run : Run) (elapsed : String) : List Piece :=
  (run.outcomes.filter fun outcome => outcome.verdict != .passed).flatMap block
    ++ [.line lightRule, .line (countLine run elapsed), .line "", .line (verdictLine run), .flush]

end Transcript
end SuiteCoverage
