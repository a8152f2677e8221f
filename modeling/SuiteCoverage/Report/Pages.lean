import SuiteCoverage.Report.Page
import SuiteCoverage.World.Writing

/-!
# A directory of pages

Writing the pages of a report. What the directory held before is removed first, so that nothing
of an earlier report stays; then every file's page is written, then the index, and last a note
that keeps the directory out of version control. The source of a file is read right before its
page is written.

Writing stops at the first fault, and what has been written by then stays.
-/

set_option autoImplicit false

namespace SuiteCoverage
namespace Pages

/-- The file that keeps a directory out of version control. -/
def ignoreFile : String := ".gitignore"

/-- Writes a text into the directory. -/
def put (directory : Pathname) (name text : String) : ExceptT CoverageError (StateM World) Unit :=
  fun w =>
    let path := directory.join ⟨name⟩
    match w.writeText path text with
    | .ok next => (.ok (), next)
    | .error fault => (.error (.io path fault), w)

/-- Makes the directory afresh. -/
def renew (directory : Pathname) : ExceptT CoverageError (StateM World) Unit :=
  fun w =>
    let (removed, w) := if w.pathExists directory then w.removeTree directory else (.ok (), w)
    match removed with
    | .error fault => (.error (.io directory fault), w)
    | .ok () =>
      let (made, w) := w.makeDirectories directory
      (made.mapError (.io directory), w)

/-- Writes the page of a file. -/
def putFile (directory : Pathname) (file : FileAccount) (name page : String) :
    ExceptT CoverageError (StateM World) Unit := do
  let w ← getThe World
  put directory page (Page.ofFile file name (w.readText file.path) w.clock.today)

/-- Writes the pages of several files. -/
def putFiles (directory : Pathname) :
    List (FileAccount × String × String) → ExceptT CoverageError (StateM World) Unit
  | [] => pure ()
  | (file, name, page) :: rest => do
    putFile directory file name page
    putFiles directory rest

/-- Writes the report on a measurement into a directory; `root` is the directory that files are
    named from. Gives back the percentage of everything measured. -/
def write (m : Measurement) (root directory : Pathname) :
    ExceptT CoverageError (StateM World) Binary64 := do
  renew directory
  let names := m.files.map fun file => displayName root file.path
  let pages := Page.names names
  putFiles directory (m.files.zip (names.zip pages))
  let w ← getThe World
  put directory "index.html" (Page.index m (Page.indexRows m names pages) w.clock.today)
  put directory ignoreFile "*\n"
  pure m.totals.percent

end Pages
end SuiteCoverage
