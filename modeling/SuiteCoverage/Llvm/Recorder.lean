import SuiteCoverage.Collector
import SuiteCoverage.Llvm.Toolchain
import SuiteCoverage.Workdir
import SuiteCoverage.World.Walk

/-!
# Recording

Instrumented programs write a raw profile when they end, to a file that a variable of the
environment names. While it records, the recorder has this variable name files in a directory of
its own. When it is finished it gives the variable back the value that it had, and makes counts
of the profiles that it finds.

It is not an error if there are no profiles, or nothing to map them onto; then there are just no
counts, and no tools are needed.
-/

set_option autoImplicit false

namespace SuiteCoverage
namespace Llvm

/-- What a recorder keeps in mind. -/
structure Recording where
  /-- The directory of the profiles while it records. -/
  directory : Option Pathname
  /-- The value that the variable had before. -/
  previous : Option String
deriving DecidableEq, Repr

namespace Recording

/-- A recorder that has not begun. -/
def idle : Recording := ⟨none, none⟩

/-- The variable that names the file for a profile. -/
def profileVariable : String := "LLVM_PROFILE_FILE"

/-- The names of profiles; a program puts its own marks for the letters behind the percent
    signs. -/
def profileTemplate : String := "prof-%p-%m.profraw"

/-- The name of the merged profile. -/
def mergedName : String := "merged.profdata"

/-- The extension of raw profiles. -/
def profileExtension : String := "profraw"

/-- Makes a directory afresh. -/
def renew (directory : Pathname) (w : World) : Except CoverageError Unit × World :=
  let (removed, w) := if w.pathExists directory then w.removeTree directory else (.ok (), w)
  match removed with
  | .error fault => (.error (.io directory fault), w)
  | .ok () =>
    let (made, w) := w.makeDirectories directory
    (made.mapError (.io directory), w)

/-- Begins to record. -/
def begin (data : Pathname) (recording : Recording) (w : World) :
    Except CoverageError Unit × Recording × World :=
  let directory := data.join ⟨Artifact.profiles⟩
  match renew directory w with
  | (.error e, next) => (.error e, recording, next)
  | (.ok (), next) =>
    let template := (directory.join ⟨profileTemplate⟩).spelling
    (.ok (), ⟨some directory, next.env.get? profileVariable⟩,
      { next with env := next.env.set profileVariable template })

/-- The profiles below a directory, in the order of their paths. -/
def profilesIn (w : World) (directory : Pathname) : List Pathname :=
  let paths := (w.walk (fun _ => false) directory).map (·.path)
  (paths.filter fun p => p.extension? == some profileExtension).mergeSort fun a b =>
    (Pathname.order a b).isLE

/-- Makes counts of profiles with tools. -/
def countsWith (launch : Launcher) (toolchain : Toolchain) (profiles objects : List Pathname)
    (merged : Pathname) (w : World) : Except CoverageError (List FileHits) × World :=
  match toolchain.merge launch profiles merged w with
  | (.error e, next) => (.error e, next)
  | (.ok (), next) =>
    match toolchain.exportTrace launch objects merged next with
    | (.error e, last) => (.error e, last)
    | (.ok trace, last) => ((Trace.read trace).mapError fun flaw => .data (.trace flaw), last)

/-- Makes counts of the profiles in a directory. -/
def counts (launch : Launcher) (directory : Pathname) (objects : List Pathname) (w : World) :
    Except CoverageError (List FileHits) × World :=
  let profiles := profilesIn w directory
  if profiles.isEmpty || objects.isEmpty then (.ok [], w)
  else
    match detect launch w with
    | (.error e, next) => (.error e, next)
    | (.ok toolchain, next) =>
      countsWith launch toolchain profiles objects (directory.join ⟨mergedName⟩) next

/-- Finishes recording. The recorder is idle afterwards whatever comes of it, and the variable
    has its former value. -/
def finish (launch : Launcher) (objects : List Pathname) (recording : Recording) (w : World) :
    Except CoverageError (List FileHits) × Recording × World :=
  match recording.directory with
  | none => (.error (.invalidState "started" "not started"), recording, w)
  | some directory =>
    let restored := { w with env := w.env.put profileVariable recording.previous }
    let (result, next) := counts launch directory objects restored
    (result, idle, next)

end Recording

/-- The collector that records what instrumented programs write. -/
def recorder (launch : Launcher) : Collector Recording where
  begin := Recording.begin
  finish := Recording.finish launch

end Llvm
end SuiteCoverage
