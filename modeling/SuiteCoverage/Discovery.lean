import SuiteCoverage.Error
import SuiteCoverage.Glob
import SuiteCoverage.Run
import SuiteCoverage.Workdir
import SuiteCoverage.World.Walk

/-!
# Finding the tests

The tests are the executable files below a directory whose names match a pattern. Directories in
which builds and tools put their output are left alone. A file with a matching name that may not
be executed is a test that cannot be run, and finding it is an error; only under the usual
pattern a file with an extension is taken for a source and passed over.
-/

set_option autoImplicit false

namespace SuiteCoverage
namespace Discovery

/-- The directories that are left alone, wherever they are. -/
def skipped : List String :=
  ["target", ".git", "CMakeFiles", Artifact.profiles, Artifact.pages]

/-- What a file counts as that a walk has come to. -/
inductive Role where
  | test
  /-- Nothing that concerns the tests. -/
  | other
  /-- A test that cannot be run. -/
  | unusable
deriving DecidableEq, Repr

/-- What a node counts as whose name matches the pattern or does not; `explicit` tells that the
    pattern is not the usual one. -/
def role (explicit isMatch : Bool) (found : Found) : Role :=
  if !found.node.isRegular || !isMatch then .other
  else if found.node.isExecutableBySome then .test
  else if explicit || found.path.extension?.isNone then .unusable
  else .other

/-- The name of the test at a path below the directory that the tests are in. -/
def testName (root path : Pathname) : String :=
  String.ofList (((path.below? root).getD path).spelling.toList.map fun c =>
    if c == '\\' then '/' else c)

/-- The tests among what a walk has come to. -/
def collect (root : Pathname) (explicit : Bool) (matcher : String → Bool) :
    List Found → Except DiscoveryError (List TestCase)
  | [] => .ok []
  | found :: rest =>
    match role explicit (matcher found.name) found with
    | .test =>
      (collect root explicit matcher rest).map (⟨testName root found.path, found.path⟩ :: ·)
    | .other => collect root explicit matcher rest
    | .unusable => .error (.notExecutable found.path)

/-- Finds the tests below a directory. -/
def discover (w : World) (root : Pathname) (pattern : String) : Except DiscoveryError Suite :=
  if !w.isDirectory root then .error (.rootNotFound root)
  else
    match Glob.read pattern with
    | .error flaw => .error (.pattern pattern flaw.message)
    | .ok tokens =>
      (collect root (pattern != TestCase.usualPattern) (fun name => Glob.isMatch tokens name.toList)
        (w.walk skipped.contains root)).map Suite.ofCases

end Discovery
end SuiteCoverage
