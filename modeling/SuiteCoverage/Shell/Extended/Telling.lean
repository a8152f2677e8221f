import SuiteCoverage.Shell.Extended.Calculation
import SuiteCoverage.Shell.Process

/-!
# Telling what is wrong

An extended shell tells on which line of which script something is wrong. What follows depends on
what it is: a command has failed, the rest of what was read at once is dropped, or the script comes
to its end.
-/

set_option autoImplicit false

namespace SuiteCoverage
namespace Shell
namespace Extended

open Effect

/-- The script in whose name is told what is wrong. -/
def speaker (s : State) : String :=
  match s.own.calls.head? with
  | some call => if call.source.isEmpty then s.self else call.source
  | none => s.self

/-- Tells what is wrong on the current line. -/
def tell (sentence : String) : Effect Unit := do
  let s ← state
  complain (speaker s ++ ": line " ++ toString s.line ++ ": " ++ sentence)

/-- Tells what is wrong with the command of the shell that is being carried out. -/
def object (sentence : String) : Effect Unit := do
  let name := (← state).runner.elim "" (· ++ ": ")
  tell (name ++ sentence)

/-- Drops the rest of what was read at once. -/
def discard {α : Type} : Effect α := do
  setStatus 1
  throw .discarded

/-- The status with which a script ends that cannot go on. A text that the shell was given ends with
    a status of its own. -/
def brokenStatus (s : State) : Nat :=
  if s.own.commandText.isSome && s.own.level = 0 then 127 else 1

/-- Ends the script, which cannot go on. -/
def breakOff {α : Type} : Effect α := do throw (.exit (brokenStatus (← state)))

/-- Ends the script because a variable has no value. -/
def refuseUnset {α : Type} (name : String) : Effect α := do
  tell (name ++ ": unbound variable")
  breakOff

/-- Changes what the shell knows. -/
def changeOwn (f : Own → Own) : Effect Unit := change fun s => { s with own := f s.own }

/-- Whether a switch is set. -/
def isOn (name : String) : Effect Bool := do return (← state).own.has name

/-- The value of an expression; `none` if there is none, which is told in the name of `runner`. -/
def calculated (runner text : String) : Effect (Option Int) := do
  let (result, after) := Calculation.evaluate (← state) text
  change fun _ => after
  match result with
  | .ok n => return some n
  | .error (.unset name) => refuseUnset name
  | .error flaw =>
    let start := match flaw with
      | .expression .. => if runner.isEmpty then "" else runner ++ ": "
      | _ => ""
    tell (start ++ flaw.complaint)
    return none

/-- The value of an expression that must have one. -/
def demanded (runner text : String) : Effect Int := do
  match ← calculated runner text with
  | some n => return n
  | none => discard

/-- Carries out an effect in the name of a command of the shell. -/
def asRunner (name : String) (effect : Effect Unit) : Effect Unit := do
  let before := (← state).runner
  change fun s => { s with runner := some name }
  let stop ← caught effect
  change fun s => { s with runner := before }
  stop.forM throw

/-- Ends a command of the shell that has failed, with a status. -/
def failWith {α : Type} (status : Nat) : Effect α := do
  setStatus status
  throw .failed

/-- Ends a command of the shell that has failed for a reason. -/
def fail {α : Type} (sentence : String) : Effect α := do
  object sentence
  failWith 1

/-- Says whether something holds, by the status. -/
def answer (holds : Bool) : Effect Unit := setStatus (if holds then 0 else 1)

/-- How the commands of the shell are used, for those that tell it. -/
def usages : List (String × String) :=
  [("alias", "alias [-p] [name[=value] ... ]"),
    ("bind", "bind [-lpsvPSVX] [-m keymap] [-f filename] [-q name] [-u name] [-r keyseq] "
      ++ "[-x keyseq:shell-command] [keyseq:readline-function or readline-command]"),
    ("builtin", "builtin [shell-builtin [arg ...]]"),
    ("caller", "caller [expr]"),
    ("cd", "cd [-L|[-P [-e]] [-@]] [dir]"),
    ("command", "command [-pVv] command [arg ...]"),
    ("declare", "declare [-aAfFgiIlnrtux] [name[=value] ...] or declare -p [-aAfFilnrtux] "
      ++ "[name ...]"),
    ("dirs", "dirs [-clpv] [+N] [-N]"),
    ("disown", "disown [-h] [-ar] [jobspec ... | pid ...]"),
    ("enable", "enable [-a] [-dnps] [-f filename] [name ...]"),
    ("eval", "eval [arg ...]"),
    ("exec", "exec [-cl] [-a name] [command [argument ...]] [redirection ...]"),
    ("export", "export [-fn] [name[=value] ...] or export -p"),
    ("getopts", "getopts optstring name [arg ...]"),
    ("hash", "hash [-lr] [-p pathname] [-dt] [name ...]"),
    ("jobs", "jobs [-lnprs] [jobspec ...] or jobs -x command [args]"),
    ("kill", "kill [-s sigspec | -n signum | -sigspec] pid | jobspec ... or kill -l [sigspec]"),
    ("let", "let arg [arg ...]"),
    ("local", "local [option] name[=value] ..."),
    ("mapfile", "mapfile [-d delim] [-n count] [-O origin] [-s count] [-t] [-u fd] "
      ++ "[-C callback] [-c quantum] [array]"),
    ("popd", "popd [-n] [+N | -N]"),
    ("printf", "printf [-v var] format [arguments]"),
    ("pushd", "pushd [-n] [+N | -N | dir]"),
    ("pwd", "pwd [-LP]"),
    ("read", "read [-ers] [-a array] [-d delim] [-i text] [-n nchars] [-N nchars] [-p prompt] "
      ++ "[-t timeout] [-u fd] [name ...]"),
    ("readarray", "readarray [-d delim] [-n count] [-O origin] [-s count] [-t] [-u fd] "
      ++ "[-C callback] [-c quantum] [array]"),
    ("readonly", "readonly [-aAf] [name[=value] ...] or readonly -p"),
    ("set", "set [-abefhkmnptuvxBCEHPT] [-o option-name] [--] [-] [arg ...]"),
    ("shopt", "shopt [-pqsu] [-o] [optname ...]"),
    ("source", "source filename [arguments]"),
    (".", ". filename [arguments]"),
    ("times", "times"),
    ("trap", "trap [-lp] [[arg] signal_spec ...]"),
    ("type", "type [-afptP] name [name ...]"),
    ("typeset", "typeset [-aAfFgiIlnrtux] name[=value] ... or typeset -p [-aAfFilnrtux] "
      ++ "[name ...]"),
    ("ulimit", "ulimit [-SHabcdefiklmnpqrstuvxPRT] [limit]"),
    ("umask", "umask [-p] [-S] [mode]"),
    ("unalias", "unalias [-a] name [name ...]"),
    ("unset", "unset [-f] [-v] [-n] [name ...]"),
    ("wait", "wait [-fn] [-p var] [id ...]")]

/-- Tells how a command of the shell is used, and that it has not been used so. -/
def refuseUsage {α : Type} : Effect α := do
  let name := (← state).runner.getD ""
  (usages.find? fun entry => entry.1 == name).forM fun entry =>
    complain (name ++ ": usage: " ++ entry.2)
  failWith misuse

/-- The options of a command of the shell and the words that follow them. `isEnd` tells that the
    options are at their end with a word that is none. An option with a value takes the rest of its
    word for it, or the next word. -/
def optionsIn (flags valued : List Char) : Nat → List String →
    Effect (List (Char × String) × List String)
  | 0, words => return ([], words)
  | _, [] => return ([], [])
  | fuel + 1, word :: rest => do
    match word.toList with
    | ['-', '-'] => return ([], rest)
    | '-' :: c :: letters =>
      if valued.contains c then
        match letters, rest with
        | [], [] =>
          object ("-" ++ String.singleton c ++ ": option requires an argument")
          refuseUsage
        | [], value :: rest =>
          let (more, words) ← optionsIn flags valued fuel rest
          return ((c, value) :: more, words)
        | letters, rest =>
          let (more, words) ← optionsIn flags valued fuel rest
          return ((c, String.ofList letters) :: more, words)
      else if flags.contains c then
        let next := if letters.isEmpty then rest else String.ofList ('-' :: letters) :: rest
        let (more, words) ← optionsIn flags valued fuel next
        return ((c, "") :: more, words)
      else
        object ("-" ++ String.singleton c ++ ": invalid option")
        refuseUsage
    | _ => return ([], word :: rest)

/-- The options of a command of the shell and the words that follow them. -/
def options (flags valued : String) (words : List String) :
    Effect (List (Char × String) × List String) :=
  let size := (words.map String.length).foldl (· + ·) (words.length + 1)
  optionsIn flags.toList valued.toList size words

end Extended
end Shell
end SuiteCoverage
