import Std.Time
import SuiteCoverage.Disk.Copy
import SuiteCoverage.Program
import SuiteCoverage.World.Walk

/-!
# The command line

The outermost layer. It gathers the world that the program runs in, lets the program run, makes
the changes to the disk that came of it, and prints. The directory worked in is the one that the
shell names; which files there are in it and elsewhere is told by a listing on standard input,
which is read only if there is a run to be made. Programs that the run starts are carried out by
the library, so the tests take no time of their own.
-/

set_option autoImplicit false

namespace SuiteCoverage
namespace Outside

/-- The variables of the environment that a run takes notice of. -/
def variableNames : List String :=
  [Arguments.workingRootVariable, "LLVM_PROFDATA", "LLVM_COV", Llvm.Recording.profileVariable,
    "PATH", "RUSTUP_HOME", "HOME"]

/-- The environment. -/
def environment : IO Environment :=
  variableNames.filterMapM fun name => do
    return (← IO.getEnv name).map fun value => (name, value)

/-- The clock, at the start of a run. -/
def clock : IO Clock := do
  let now ← Std.Time.DateTime.now
  return ⟨now.format "uuuu-MM-dd HH:mm Z", "0.000"⟩

/-- Puts what a listing tells of into a world. -/
partial def readListing (input : IO.FS.Stream) (w : World) : IO World := do
  let line ← input.getLine
  if line.isEmpty then return w
  let next ← match Listed.ofLine (String.ofList (line.toList.filter (· != '\n'))) with
    | .directory p => pure (w.placeDirectory p)
    | .file p executable => do
      pure (w.placeFile p executable (← IO.FS.readBinFile p.spelling))
  readListing input next

/-- The path of a location. -/
def pathOf (loc : Location) : String := (World.pathOf loc).spelling

/-- Makes a change. Links are left to those who make them. -/
def make : Change → IO Unit
  | .makeDirectory loc => IO.FS.createDirAll (pathOf loc)
  | .write loc content _ => IO.FS.writeBinFile (pathOf loc) content
  | .makeLink _ _ => pure ()
  | .removeFile loc => IO.FS.removeFile (pathOf loc)
  | .removeTree loc => IO.FS.removeDirAll (pathOf loc)

/-- The world that a run starts in. -/
def gather (words : List String) (env : Environment) : IO World := do
  let directory := (← IO.getEnv "PWD").getD "/"
  let bare := World.bare World.systemDisk ⟨directory⟩ env (← clock)
  match Arguments.read words (env.get? Arguments.workingRootVariable) with
  | .ok _ => readListing (← IO.getStdin) bare
  | .error _ => return bare

/-- Does what the words of a command line ask for, and gives back the exit status. -/
def carryOut (words : List String) : IO UInt32 := do
  let before ← gather words (← environment)
  let (result, after) := Program.run World.launch words before
  (Change.between before.disk after.disk).forM make
  IO.print result.output
  IO.eprint result.errors
  return UInt32.ofNat result.status

end Outside
end SuiteCoverage

/-- The program. -/
def main (words : List String) : IO UInt32 :=
  SuiteCoverage.Outside.carryOut words
