import SuiteCoverage.Discovery
import SuiteCoverage.Llvm.Recorder
import SuiteCoverage.Pipeline

/-!
# The program

What the program does with its arguments: it answers a question, refuses a command line that it
does not understand, or makes a run with tests that are programs and counts that come from
instrumented programs. The tests are told about on the error stream, the short report goes to the
output.
-/

set_option autoImplicit false

namespace SuiteCoverage

/-- The engine whose tests are the programs with names that match a pattern. -/
def Engine.ofPattern {σ : Type} (launch : Launcher) (console : Stream σ) (pattern : String) :
    Engine σ where
  discover w root := Discovery.discover w root pattern
  run suite verbosity w s := suite.run launch console verbosity w s

namespace Program

/-- What the program leaves besides its changes to the disk. -/
structure Result where
  status : Nat
  output : String
  errors : String
deriving DecidableEq, Repr

/-- The status of a run that failed. -/
def failed : Nat := 1

/-- The status after a command line that was not understood. -/
def misused : Nat := 2

/-- What becomes of a command line that is not carried out. -/
def refuse (refusal : Refusal) (fromEnvironment : Option String) : Result :=
  match refusal with
  | .help => ⟨0, helpText .pauses fromEnvironment, ""⟩
  | .version => ⟨0, versionText, ""⟩
  | other => ⟨misused, "", other.complaint⟩

/-- What a run is made with. -/
def setup (launch : Launcher) (options : RunOptions) :
    Pipeline.Setup Llvm.Recording String String where
  engine := Engine.ofPattern launch Stream.memory options.pattern
  collector := Llvm.recorder launch
  output := Stream.memory

/-- A run that has not begun. -/
def fresh (options : RunOptions) (w : World) :
    Pipeline.Progress Llvm.Recording String String where
  session := Session.ofSettings (Settings.ofSource options.sources) Llvm.Recording.idle
  world := w
  console := ""
  output := ""

/-- Makes a run. -/
def carryOut (launch : Launcher) (options : RunOptions) (w : World) : Result × World :=
  match (Pipeline.run (setup launch options) options).run.run (fresh options w) with
  | (.ok summary, after) =>
    (⟨summary.exitCode options.exitPolicy, after.output, after.console⟩, after.world)
  | (.error failure, after) =>
    (⟨failed, after.output, after.console ++ failure.report⟩, after.world)

/-- Does what the words of a command line ask for. -/
def run (launch : Launcher) (words : List String) (w : World) : Result × World :=
  let root := w.env.get? Arguments.workingRootVariable
  match Arguments.read words root with
  | .ok arguments => carryOut launch (RunOptions.ofArguments arguments) w
  | .error refusal => (refuse refusal root, w)

end Program
end SuiteCoverage
