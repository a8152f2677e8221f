import SuiteCoverage.Error
import SuiteCoverage.Launch
import SuiteCoverage.Text.Lines
import SuiteCoverage.World.Matching

/-!
# The tools

Two tools make line counts out of the raw profiles that instrumented programs write: one merges
the profiles, the other maps the merged profile onto the sources of the instrumented objects and
writes the counts as a trace. A tool that cannot be launched is a fault of the system; one that
reports failure is quoted.
-/

set_option autoImplicit false

namespace SuiteCoverage
namespace Llvm

/-- Where tools were found. -/
inductive Origin where
  /-- Variables of the environment name them. -/
  | environment
  /-- They are among the programs of the system. -/
  | system
  | homebrew
  | rustup
deriving DecidableEq, Repr

/-- How an origin is called. -/
def Origin.label : Origin → String
  | environment => "LLVM_PROFDATA/LLVM_COV"
  | system => "System LLVM"
  | homebrew => "Homebrew LLVM"
  | rustup => "Rust toolchain (rustup)"

/-- The two tools. -/
structure Toolchain where
  profdata : Pathname
  cov : Pathname
  origin : Origin
deriving DecidableEq, Repr

namespace Toolchain

/-- Launches a tool and gives back how it ended if it reports success. -/
def runTool (launch : Launcher) (tool : Pathname) (label : String) (arguments : List String)
    (w : World) : Except CoverageError Finish × World :=
  match launch ⟨tool, arguments⟩ w with
  | (.error fault, next) => (.error (.io tool fault), next)
  | (.ok finish, next) =>
    if finish.succeeded then (.ok finish, next)
    else (.error (.ofTool label finish.errors), next)

/-- What the first tool is told to merge profiles. -/
def mergeArguments (profiles : List Pathname) (output : Pathname) : List String :=
  ["merge", "-sparse"] ++ profiles.map (·.spelling) ++ ["-o", output.spelling]

/-- Merges profiles into one. -/
def merge (toolchain : Toolchain) (launch : Launcher) (profiles : List Pathname)
    (output : Pathname) (w : World) : Except CoverageError Unit × World :=
  let (result, next) :=
    runTool launch toolchain.profdata "llvm-profdata merge" (mergeArguments profiles output) w
  (result.map fun _ => (), next)

/-- What the second tool is told to map a profile onto objects. The first object stands alone, and
    every other one behind a switch. -/
def exportArguments (profile first : Pathname) (others : List Pathname) : List String :=
  ["export", "-format=lcov", "-instr-profile=" ++ profile.spelling, first.spelling]
    ++ others.flatMap fun object => ["-object", object.spelling]

/-- Maps a profile onto objects, and gives back the trace. -/
def exportTrace (toolchain : Toolchain) (launch : Launcher) (objects : List Pathname)
    (profile : Pathname) (w : World) : Except CoverageError String × World :=
  match objects with
  | [] => (.error (.toolchain .noObjects), w)
  | first :: others =>
    let (result, next) :=
      runTool launch toolchain.cov "llvm-cov export" (exportArguments profile first others) w
    (result.map fun finish => Text.decodeLenient finish.output, next)

end Toolchain

/-!
## Finding the tools

The environment may name both tools, and then nothing else counts, not even whether they exist.
Otherwise they are looked for among the programs of the system, each by itself; then in the two
directories where one package manager puts them; and last in what belongs to the active toolchain
of another one, which has to be asked for its name. In the last two places both tools have to be
in one directory.
-/

/-- The names of the tools. -/
def profdataName : String := "llvm-profdata"
def covName : String := "llvm-cov"

/-- Both tools in a directory, if they are there. -/
def pairIn? (w : World) (directory : Pathname) : Option (Pathname × Pathname) :=
  let profdata := directory.join ⟨profdataName⟩
  let cov := directory.join ⟨covName⟩
  if w.pathExists profdata && w.pathExists cov then some (profdata, cov) else none

/-- The first directory with both tools. -/
def firstPair? (w : World) (origin : Origin) (directories : List Pathname) : Option Toolchain :=
  (directories.findSome? (pairIn? w)).map fun pair => ⟨pair.1, pair.2, origin⟩

/-- The tools that the environment names. -/
def fromEnvironment? (w : World) : Option Toolchain := do
  let profdata ← w.env.get? "LLVM_PROFDATA"
  let cov ← w.env.get? "LLVM_COV"
  return ⟨⟨profdata⟩, ⟨cov⟩, .environment⟩

/-- The directory of the user; it has a usual place if the environment does not tell. -/
def homeDirectory (w : World) : Pathname :=
  ⟨((w.env.get? "HOME").filter (!·.isEmpty)).getD "/root"⟩

/-- A directory in which programs are looked for. A tilde as its first step is the directory of
    the user. -/
def expandHome (w : World) (directory : Pathname) : Pathname :=
  match directory.components with
  | .name "~" :: rest =>
    rest.foldl
      (fun p component =>
        match component with
        | .name text => p.join ⟨text⟩
        | .up => p.join ⟨".."⟩
        | .here => p
        | .root => p)
      (homeDirectory w)
  | _ => directory

/-- Whether a path leads to a file that may be executed. -/
def isProgram (w : World) (p : Pathname) : Bool :=
  match w.stat p with
  | .ok node => node.isRegular && node.isExecutable
  | .error _ => false

/-- The program of the system with a name. -/
def which? (w : World) (name : String) : Option Pathname := do
  let directories ← w.env.get? "PATH"
  ((World.directoriesOf directories).map fun directory =>
    (expandHome w directory).join ⟨name⟩).find? (isProgram w)

/-- The tools among the programs of the system. -/
def fromSystem? (w : World) : Option Toolchain := do
  let profdata ← which? w profdataName
  let cov ← which? w covName
  return ⟨profdata, cov, .system⟩

/-- The directories of one package manager, on either kind of machine. -/
def homebrewDirectories : List Pathname :=
  [⟨"/opt/homebrew/opt/llvm/bin"⟩, ⟨"/usr/local/opt/llvm/bin"⟩]

/-- The directory of the other package manager. -/
def rustupHome? (w : World) : Option Pathname :=
  match w.env.get? "RUSTUP_HOME" with
  | some directory => some ⟨directory⟩
  | none => (w.env.get? "HOME").map fun home => Pathname.join ⟨home⟩ ⟨".rustup"⟩

/-- The pattern of the directories in which a toolchain keeps tools. -/
def rustupPattern (home : Pathname) (name : String) : String :=
  ((home.join ⟨"toolchains"⟩).join ⟨name⟩).spelling ++ "/lib/rustlib/*/bin"

/-- The tools in the toolchain with a name. -/
def inToolchain? (w : World) (home : Pathname) (name : String) : Option Toolchain :=
  match w.pathsMatching (rustupPattern home name) with
  | .ok directories => firstPair? w .rustup directories
  | .error _ => none

/-- The tools in the active toolchain. Only the first word of the answer counts, and not whether
    the program that gave it reports success. -/
def fromRustup? (launch : Launcher) (w : World) : Option Toolchain × World :=
  match rustupHome? w with
  | none => (none, w)
  | some home =>
    match launch ⟨⟨"rustup"⟩, ["show", "active-toolchain"]⟩ w with
    | (.error _, next) => (none, next)
    | (.ok finish, next) =>
      match Text.firstWord? (Text.decodeLenient finish.output).toList with
      | none => (none, next)
      | some name => (inToolchain? next home (String.ofList name), next)

/-- Finds the tools. -/
def detect (launch : Launcher) (w : World) : Except CoverageError Toolchain × World :=
  match (fromEnvironment? w).orElse fun _ => (fromSystem? w).orElse fun _ =>
    firstPair? w .homebrew homebrewDirectories with
  | some toolchain => (.ok toolchain, w)
  | none =>
    match fromRustup? launch w with
    | (some toolchain, next) => (.ok toolchain, next)
    | (none, next) => (.error (.toolchain .notInstalled), next)

end Llvm
end SuiteCoverage
