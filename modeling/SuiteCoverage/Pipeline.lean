import SuiteCoverage.CommandLine
import SuiteCoverage.Execution
import SuiteCoverage.Session
import SuiteCoverage.Workdir
import SuiteCoverage.Text.Column

/-!
# The pipeline

A whole run: the session is configured, the directory of the configuration is entered, counting
starts, the tests are found and run, counting stops, what was measured is saved, and a report is
written. Every step needs the ones before it, so a run ends with the first step that fails.

Paths given on the command line are meant from where the run starts, not from the directory that
it enters.
-/

set_option autoImplicit false

namespace SuiteCoverage

/-- A way to find tests and to run them, with a console whose state is a `σ`. -/
structure Engine (σ : Type) where
  discover : World → Pathname → Except DiscoveryError Suite
  run : Suite → Verbosity → World → σ → Run × World × σ

namespace Pipeline

/-- A step of a run, as far as a failure in it has to be told apart. -/
inductive Step where
  | configure
  | readDirectory
  | enterDirectory
  | start
  | discover (directory : Pathname)
  | stop
  | save
  | writePages
  | writeTable
deriving DecidableEq, Repr

/-- What is said about the failure of a step, apart from the cause. -/
def Step.context? : Step → Option String
  | configure => none
  | readDirectory => some "failed to read the current directory"
  | enterDirectory => some "failed to enter the configuration directory"
  | start => some "failed to start coverage"
  | discover directory => some ("test discovery failed under " ++ directory.spelling)
  | stop => some "failed to stop coverage"
  | save => some "failed to save coverage data"
  | writePages => some "failed to write the HTML report"
  | writeTable => some "failed to write the coverage report"

/-- Why a step failed. -/
inductive Cause where
  | system (fault : Fault)
  | workdir (error : WorkdirError)
  | discovery (error : DiscoveryError)
  | coverage (error : CoverageError)
deriving DecidableEq, Repr

/-- What is said about a cause, and then about what lies behind it. -/
def Cause.messages : Cause → List String
  | system fault => [fault.message]
  | workdir (.io path fault) => [ioMessage path fault, fault.message]
  | workdir error => [error.message]
  | discovery error => [error.message]
  | coverage (.io path fault) => [ioMessage path fault, fault.message]
  | coverage error => [error.message]

/-- The failure of a step. -/
structure Failure where
  step : Step
  cause : Cause
deriving DecidableEq, Repr

namespace Failure

/-- All that is said about a failure, the outermost first. -/
def messages (failure : Failure) : List String :=
  failure.step.context?.toList ++ failure.cause.messages

/-- A failure on one line. -/
def line (failure : Failure) : String :=
  ": ".intercalate failure.messages

/-- The causes below a failure: numbered if there are several. The lines of a cause stand below
    each other. -/
def causeLines : List String → List String
  | [] => []
  | [cause] => ["", "Caused by:", Text.padLeft 4 "" ++ Text.hang 4 cause]
  | causes =>
    ["", "Caused by:"] ++ causes.zipIdx.map fun (cause, index) =>
      Text.padLeft 5 (toString index) ++ ": " ++ Text.hang 7 cause

/-- A failure as a report of its own. -/
def report (failure : Failure) : String :=
  match failure.messages with
  | [] => ""
  | first :: causes =>
    "Error: " ++ String.join ((first :: causeLines causes).map (· ++ "\n"))

end Failure

/-- What a run is made with: an engine, a collector and a stream for the report. -/
structure Setup (κ σ τ : Type) where
  engine : Engine σ
  collector : Collector κ
  output : Stream τ

/-- A run in progress: the session, the world, and the states of the console and of the stream
    for the report. -/
structure Progress (κ σ τ : Type) where
  session : Session κ
  world : World
  console : σ
  output : τ

/-- What came of a run. -/
structure Summary where
  relocation : Relocation
  run : Run
  dataFile : Pathname
  percent : Binary64
  /-- The directory of the long report, if that was asked for. -/
  pages : Option Pathname

variable {κ σ τ : Type}

/-- Carries out a part of a run, which may fail. -/
abbrev Part (κ σ τ α : Type) := ExceptT Failure (StateM (Progress κ σ τ)) α

/-- Takes a result that is there, or fails. -/
def orFail {α ε : Type} (step : Step) (cause : ε → Cause) (result : Except ε α) :
    Part κ σ τ α :=
  match result with
  | .ok value => pure value
  | .error e => throw ⟨step, cause e⟩

/-- Sets an option of the session. -/
def setOption (key : String) (value : OptionValue) : Part κ σ τ Unit := do
  let progress ← getThe (Progress κ σ τ)
  let session ← orFail .configure .coverage (progress.session.setOption key value)
  set { progress with session }

/-- Lets the session leave out what stands behind a marker. -/
def configure (marker : String) : Part κ σ τ Unit := do
  setOption Setting.pluginsKey (.list [Plugin.boundary.name])
  setOption (Setting.markerKey .boundary) (.text marker)

/-- The directory that the run starts in. -/
def readDirectory : Part κ σ τ Pathname := do
  let progress ← getThe (Progress κ σ τ)
  orFail .readDirectory .system progress.world.currentDirectory

/-- Enters the directory of the configuration. -/
def enterDirectory (root : Pathname) (configuration : String) : Part κ σ τ Relocation := do
  let progress ← getThe (Progress κ σ τ)
  let (result, world) := relocate root configuration progress.world
  set { progress with world }
  orFail .enterDirectory .workdir result

/-- Starts the session. -/
def start (collector : Collector κ) : Part κ σ τ Unit := do
  let progress ← getThe (Progress κ σ τ)
  let (result, session, world) := progress.session.start collector progress.world
  set { progress with session, world }
  orFail .start .coverage result

/-- Finds the tests. -/
def discover (engine : Engine σ) (directory : Pathname) : Part κ σ τ Suite := do
  let progress ← getThe (Progress κ σ τ)
  orFail (.discover directory) .discovery (engine.discover progress.world directory)

/-- Lets the session map counts onto objects. -/
def addObjects (objects : List Pathname) : Part κ σ τ Unit :=
  modifyThe (Progress κ σ τ) fun progress =>
    { progress with session := progress.session.addObjects objects }

/-- Runs the tests. -/
def runTests (engine : Engine σ) (suite : Suite) (verbosity : Verbosity) : Part κ σ τ Run := do
  let progress ← getThe (Progress κ σ τ)
  let (run, world, console) := engine.run suite verbosity progress.world progress.console
  set { progress with world, console }
  return run

/-- Stops the session. -/
def stop (collector : Collector κ) : Part κ σ τ Unit := do
  let progress ← getThe (Progress κ σ τ)
  let (result, session, world) := progress.session.stop collector progress.world
  set { progress with session, world }
  orFail .stop .coverage result

/-- Saves what was measured. -/
def save : Part κ σ τ Pathname := do
  let progress ← getThe (Progress κ σ τ)
  let (dataFile, world) ← orFail .save .coverage (progress.session.save progress.world)
  set { progress with world }
  return dataFile

/-- Writes the long report. -/
def writePages : Part κ σ τ Binary64 := do
  let progress ← getThe (Progress κ σ τ)
  let (result, world) := progress.session.reportPages ⟨Artifact.pages⟩ progress.world
  set { progress with world }
  orFail .writePages .coverage result

/-- Writes the short report. -/
def writeTable (stream : Stream τ) : Part κ σ τ Binary64 := do
  let progress ← getThe (Progress κ σ τ)
  let (result, output) := progress.session.report progress.world stream progress.output
  set { progress with output }
  orFail .writeTable .coverage result

/-- Makes a run. -/
def run (setup : Setup κ σ τ) (options : RunOptions) : Part κ σ τ Summary := do
  configure options.marker
  let origin ← readDirectory
  let relocation ← enterDirectory options.workingRoot options.configuration
  start setup.collector
  let suite ← discover setup.engine ((options.testsDir.map origin.join).getD origin)
  addObjects suite.executables
  addObjects (options.objects.map origin.join)
  let run ← runTests setup.engine suite options.verbosity
  stop setup.collector
  let dataFile ← save
  match options.reportMode with
  | .pages =>
    let percent ← writePages
    return ⟨relocation, run, dataFile, percent, some (relocation.current.join ⟨Artifact.pages⟩)⟩
  | .table =>
    let percent ← writeTable setup.output
    return ⟨relocation, run, dataFile, percent, none⟩

/-- The exit status after a run. -/
def Summary.exitCode (summary : Summary) (policy : ExitPolicy) : Nat :=
  summary.run.exitCode policy

end Pipeline
end SuiteCoverage
