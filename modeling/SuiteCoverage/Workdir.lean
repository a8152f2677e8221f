import SuiteCoverage.Error
import SuiteCoverage.World.Writing

/-!
# The working directory of a run

Tests run in the output directory of a build configuration, which is a directory under a common
root. Without a configuration they run in the root itself. A run goes there once and does not
come back. It makes directories of its own there, in which tests are never looked for.
-/

set_option autoImplicit false

namespace SuiteCoverage

/-- The directory of a configuration under a root. -/
def targetDirectory (root : Pathname) (configuration : String) : Pathname :=
  if configuration.isEmpty then root else root.join ⟨configuration⟩

/-- A change of the directory worked in: where it was, and where it is. -/
structure Relocation where
  previous : Pathname
  current : Pathname
deriving DecidableEq, Repr

/-- Goes to the directory of a configuration. -/
def relocate (root : Pathname) (configuration : String) (w : World) :
    Except WorkdirError Relocation × World :=
  let target := targetDirectory root configuration
  match w.stat target with
  | .error .notFound => (.error (.notFound target), w)
  | .error fault => (.error (.io target fault), w)
  | .ok node =>
    if !node.isDirectory then (.error (.notADirectory target), w)
    else
      match w.currentDirectory with
      | .error fault => (.error (.io ⟨"."⟩ fault), w)
      | .ok previous =>
        match w.changeDirectory target with
        | .error fault => (.error (.io target fault), w)
        | .ok next => (((next.currentDirectory).map fun current => ⟨previous, current⟩).mapError
            (.io target), next)

/-! ## What a run leaves behind -/

namespace Artifact

/-- The directory of the raw profiles. -/
def profiles : String := ".coverage_profraw"

/-- The directory of the long report. -/
def pages : String := "coverage_html_report"

end Artifact
end SuiteCoverage
