import SuiteCoverage.Shell.Extended.Script
import SuiteCoverage.Shell.Extended.Variable

/-!
# What the extended shell knows

What an extended shell has in its hands besides what every process has: variables, functions,
switches by their names, the functions that are being carried out, and what it has started.
-/

set_option autoImplicit false

namespace SuiteCoverage
namespace Shell
namespace Extended

/-- A function or a file that is being carried out. -/
structure Call where
  /-- The name of the function. -/
  name : String
  /-- The file that it stands in. -/
  source : String
  /-- The line on which it was called. -/
  line : Nat
  /-- Whether it is a function. -/
  isFunction : Bool
  /-- What it was given. -/
  arguments : List String

/-- How a job is doing. -/
inductive JobState where
  | running
  | done (status : Nat)
  | killed (signal : Nat)
deriving DecidableEq, Repr

/-- Processes that were started together and are not waited for. -/
structure Job where
  number : Nat
  /-- The processes, the last of which tells how the job went. -/
  processes : List Nat
  text : String
  /-- Whether its end has been told. -/
  isTold : Bool

/-- A command that is being carried out. -/
inductive Present where
  | task (task : Task)
  /-- A part of a command, as it stands in the script. -/
  | part (text : String)

/-- What an extended shell knows. -/
structure Own where
  scopes : Scopes
  functions : List (String × Function)
  /-- The names of the switches that are set. -/
  enabled : List String
  /-- How the commands of the last pipeline went. -/
  statuses : List Nat
  /-- What is being carried out, the innermost first. -/
  calls : List Call
  documents : List (Nat × Document)
  jobs : List Job
  /-- How processes ended that were not waited for yet. -/
  endings : List (Nat × Nat)
  /-- The directories that have been put away, the last first. -/
  directories : List String
  /-- The last number that was drawn, and what the next one is drawn from. -/
  drawn : Nat
  seed : Nat
  /-- The time from which on seconds are counted. -/
  start : Int
  /-- The number of shells that this one is a part of. -/
  level : Nat
  /-- How deep texts are carried out in texts. -/
  textDepth : Nat
  /-- The last argument of the last command. -/
  lastArgument : String
  /-- The last command that was not part of an arrangement. -/
  present : Present
  /-- The occasions whose arrangements are being carried out, the innermost first. -/
  arranged : List Nat
  /-- The line that is told of a command that has failed. -/
  failureLine : Nat
  /-- The arrangements of the shell that this one is a part of, until it makes its own. -/
  formerArrangements : List (Nat × String)
  /-- The descriptors that lead to pipes for the command that is being carried out. -/
  pipes : List Nat
  /-- How often the script has given itself arguments. -/
  renewals : Nat
  /-- The text of a command that the shell was given. -/
  commandText : Option String
  /-- The variables that the shell has kept itself and that have been taken away. -/
  disabled : List String
  /-- The programs that have been looked for and found: their names, their paths, and how often
      they have been run. -/
  found : List (String × String × Nat)
  /-- The commands of the shell that are turned off. -/
  closed : List String

namespace Own

/-- What an extended shell knows at first. -/
def initial : Own where
  scopes := [⟨[], false, none⟩]
  functions := []
  enabled := []
  statuses := []
  calls := []
  documents := []
  jobs := []
  endings := []
  directories := []
  drawn := 0
  seed := 1
  start := 0
  level := 0
  textDepth := 0
  lastArgument := ""
  present := .part ""
  arranged := []
  failureLine := 1
  formerArrangements := []
  pipes := []
  renewals := 0
  commandText := none
  disabled := []
  found := []
  closed := []

/-- Whether a switch is set. -/
def has (own : Own) (name : String) : Bool := own.enabled.contains name

/-- With a switch set or not. -/
def turn (own : Own) (name : String) (isOn : Bool) : Own :=
  let others := own.enabled.filter (· != name)
  { own with enabled := if isOn then name :: others else others }

end Own

namespace Switches

/-- The names of the older switches. -/
def older : List String :=
  ["allexport", "braceexpand", "emacs", "errexit", "errtrace", "functrace", "hashall",
    "histexpand", "history", "ignoreeof", "interactive-comments", "keyword", "monitor",
    "noclobber", "noexec", "noglob", "nolog", "notify", "nounset", "onecmd", "physical",
    "pipefail", "posix", "privileged", "verbose", "vi", "xtrace"]

/-- The names of the other switches. -/
def newer : List String :=
  ["autocd", "assoc_expand_once", "cdable_vars", "cdspell", "checkhash", "checkjobs",
    "checkwinsize", "cmdhist", "compat31", "compat32", "compat40", "compat41", "compat42",
    "compat43", "compat44", "complete_fullquote", "direxpand", "dirspell", "dotglob", "execfail",
    "expand_aliases", "extdebug", "extglob", "extquote", "failglob", "force_fignore",
    "globasciiranges", "globskipdots", "globstar", "gnu_errfmt", "histappend", "histreedit",
    "histverify", "hostcomplete", "huponexit", "inherit_errexit", "interactive_comments",
    "lastpipe", "lithist", "localvar_inherit", "localvar_unset", "login_shell", "mailwarn",
    "no_empty_cmd_completion", "nocaseglob", "nocasematch", "noexpand_translation", "nullglob",
    "patsub_replacement", "progcomp", "progcomp_alias", "promptvars", "restricted_shell",
    "shift_verbose", "sourcepath", "varredir_close", "xpg_echo"]

/-- The switches that are set at first. -/
def initial : List String :=
  ["braceexpand", "hashall", "interactive-comments", "checkwinsize", "cmdhist",
    "complete_fullquote", "extquote", "force_fignore", "globasciiranges", "globskipdots",
    "hostcomplete", "interactive_comments", "patsub_replacement", "progcomp", "promptvars",
    "sourcepath"]

/-- The switches of some names that are set, one behind the other. -/
def listed (own : Own) (names : List String) : String := ":".intercalate (names.filter own.has)

end Switches
end Extended
end Shell
end SuiteCoverage
