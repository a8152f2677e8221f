import SuiteCoverage.Shell.Extended.Start
import SuiteCoverage.Shell.Utility.Characters
import SuiteCoverage.Shell.Utility.Counts
import SuiteCoverage.Shell.Utility.Editing
import SuiteCoverage.Shell.Utility.Excerpts
import SuiteCoverage.Shell.Utility.Digests
import SuiteCoverage.Shell.Utility.Dump
import SuiteCoverage.Shell.Utility.Expression
import SuiteCoverage.Shell.Utility.Files
import SuiteCoverage.Shell.Utility.Finding
import SuiteCoverage.Shell.Utility.Joining
import SuiteCoverage.Shell.Utility.Batches
import SuiteCoverage.Shell.Utility.Blocks
import SuiteCoverage.Shell.Utility.Launching
import SuiteCoverage.Shell.Utility.Listing
import SuiteCoverage.Shell.Utility.Order
import SuiteCoverage.Shell.Utility.Paths
import SuiteCoverage.Shell.Utility.Records
import SuiteCoverage.Shell.Utility.Reshaping
import SuiteCoverage.Shell.Utility.Searching
import SuiteCoverage.Shell.Utility.Sequence
import SuiteCoverage.Shell.Utility.Texts
import SuiteCoverage.Shell.Utility.Times

/-!
# Utilities

The programs of the system by their names.
-/

set_option autoImplicit false

namespace SuiteCoverage
namespace Shell
namespace Utility

open Effect

/-- A command of the shell as a program. -/
def fromShell (name : String) (arguments : List String) : Effect Unit :=
  (Builtin.find? name arguments).getD (pure ())

/-- The programs of the system that run no other programs, and what they do. -/
def table : List (String × (List String → Effect Unit)) :=
  [("cat", cat), ("mkdir", mkdir), ("rmdir", rmdir), ("rm", rm), ("touch", touch), ("cp", cp),
    ("mv", mv), ("ln", ln), ("chmod", chmod), ("sleep", sleep), ("basename", basename),
    ("dirname", dirname), ("seq", seq), ("ls", ls), ("printenv", printenv),
    ("true", fun _ => Builtin.answer true), ("false", fun _ => Builtin.answer false),
    ("echo", echo), ("printf", printf), ("test", fromShell "test"), ("[", fromShell "["),
    ("pwd", fun _ => Directory.print ["-P"]), ("kill", fromShell "kill"),
    ("head", head), ("tail", tail), ("cut", cut), ("wc", wc), ("nl", nl), ("tac", tac),
    ("rev", rev), ("paste", paste), ("fold", fold), ("expand", expand), ("unexpand", unexpand),
    ("tee", tee), ("yes", yes), ("split", split), ("tr", tr), ("sort", sort), ("uniq", uniq),
    ("comm", comm), ("join", join), ("tsort", tsort), ("shuf", shuf), ("od", od),
    ("cksum", cksum), ("sum", sum), ("md5sum", digests .md5), ("sha1sum", digests .sha1),
    ("sha224sum", digests .sha224), ("sha256sum", digests .sha256), ("sha384sum", digests .sha384),
    ("sha512sum", digests .sha512), ("b2sum", blakeDigests), ("base64", base64),
    ("base32", base32), ("basenc", basenc), ("date", date), ("readlink", readlink),
    ("realpath", realpath), ("stat", stat), ("mkfifo", mkfifo), ("mktemp", mktemp),
    ("truncate", truncate), ("link", linkOne), ("unlink", unlink), ("install", install),
    ("sync", sync), ("expr", expr), ("dd", dd), ("grep", grep),
    ("egrep", fun arguments => grep ("-E" :: arguments)),
    ("fgrep", fun arguments => grep ("-F" :: arguments))]

/-- The programs that write what they have for the output at once. -/
def immediate : List String := ["cat", "tee", "yes", "dd", "bash"]

/-- The steps that a script of the extended shell is granted. -/
def stepsGranted : Nat := 1000000000

/-- Does what the extended shell does. -/
def bash (launcher : Launcher) (arguments : List String) : Effect Unit :=
  Extended.Start.run launcher stepsGranted arguments

/-- The programs of the system that run other programs, and what they do. -/
def launching : List (String × (Launcher → List String → Effect Unit)) :=
  [("env", env), ("timeout", timeout), ("nohup", nohup), ("nice", nice), ("stdbuf", stdbuf),
    ("setsid", setsid), ("xargs", xargs), ("sed", sed), ("find", find),
    ("awk", awk), ("mawk", awk), ("bash", bash)]

/-- What a program of the system does. -/
def find? (name : String) (launcher : Launcher) (arguments : List String) :
    Option (Effect Unit) :=
  match table.find? fun entry => entry.1 == name with
  | some entry => some (entry.2 arguments)
  | none =>
    (launching.find? fun entry => entry.1 == name).map fun entry => entry.2 launcher arguments

/-- The programs that run scripts. -/
def shells : List String := ["sh", "dash"]

/-- The names of the programs of the system. -/
def names : List String := shells ++ table.map (·.1) ++ launching.map (·.1)

end Utility
end Shell
end SuiteCoverage
