import SuiteCoverage.Shell.Alias
import SuiteCoverage.Shell.Arrangement
import SuiteCoverage.Shell.Condition
import SuiteCoverage.Shell.Directory
import SuiteCoverage.Shell.Field
import SuiteCoverage.Shell.Format
import SuiteCoverage.Disk.Mode
import SuiteCoverage.Shell.Options

/-!
# Commands of the shell

The commands that the shell carries out itself, apart from those that run other commands. Some
of them are special: an error in one of them ends the script.
-/

set_option autoImplicit false

namespace SuiteCoverage
namespace Shell
namespace Builtin

open Effect

/-- The commands an error in which ends the script. -/
def special : List String :=
  [":", ".", "break", "continue", "eval", "exec", "exit", "export", "local", "readonly", "return",
    "set", "shift", "times", "trap", "unset"]

/-- The commands whose arguments are assignments if they look like some. -/
def declaring : List String := ["alias", "export", "local", "readonly"]

/-- Whether the words of a command so far start one whose arguments are assignments if they look
    like some. -/
def isDeclaring (s : State) (words : List String) : Bool :=
  let isFunction (word : String) : Bool :=
    !special.contains word && s.functions.any fun entry => entry.1 == word
  let named := words.dropWhile ["command", "-p", "--"].contains
  !words.head?.any isFunction && named.head?.any declaring.contains

/-- A number among the arguments of a command, or what it is if there is none. -/
def numberOr (default? : Nat) : List String → Effect Nat
  | [] => return default?
  | text :: _ =>
    match Arithmetic.count? text with
    | some n => return n
    | none => giveUp ("Illegal number: " ++ text)

/-- Says whether something holds, by the status. -/
def answer (holds : Bool) : Effect Unit :=
  setStatus (if holds then 0 else 1)

/-- Writes formatted text. -/
def printf (arguments : List String) : Effect Unit := do
  match ← operandsOf arguments with
  | [] => giveUp "usage: printf format [arg ...]"
  | format :: values =>
    let printing := Format.printf .shell 0 format values
    printing.complaints.forM protest
    say (String.ofList printing.output)
    if printing.isAbandoned then setStatus misuse else answer printing.complaints.isEmpty

/-- Answers a question. -/
def test (arguments : List String) : Effect Unit := do
  let s ← state
  match Condition.evaluate s.world arguments with
  | .ok holds => answer holds
  | .error complaint => giveUp complaint

/-- Answers a question in brackets. -/
def bracket (arguments : List String) : Effect Unit :=
  if arguments.getLast? == some "]" then test arguments.dropLast
  else giveUp "missing ]"

/-- A line of the input, what follows it, and whether it ends in the end of a line. A backslash
    joins lines and takes the meaning from the next character, unless the line is taken `raw`. -/
def lineOf (raw : Bool) : List Char → List Cell × List Char × Bool
  | [] => ([], [], false)
  | '\n' :: rest => ([], rest, true)
  | '\x00' :: rest => lineOf raw rest
  | ['\\'] => (if raw then [.value '\\'] else [], [], false)
  | '\\' :: c :: rest =>
    if raw && c == '\n' then ([.value '\\'], rest, true)
    else
      let (line, after, ended) := lineOf raw rest
      let start :=
        if raw then [.value '\\', .value c] else if c == '\n' then [] else [.quoted c]
      (start ++ line, after, ended)
  | c :: rest =>
    let (line, after, ended) := lineOf raw rest
    (.value c :: line, after, ended)

/-- The place behind the end of the line that a place is in, if the line has an end. -/
def lineEnd? (raw : Bool) (bytes : ByteArray) : Nat → Nat → Option Nat
  | 0, _ => none
  | fuel + 1, position =>
    match bytes[position]? with
    | none => none
    | some byte =>
      if byte == 0x0A then some (position + 1)
      else lineEnd? raw bytes fuel (position + if byte == 0x5C && !raw then 2 else 1)

/-- Gives names the fields of a line, and empty values if there are no more fields. -/
def assignFields : List String → List (List Cell) → Effect Unit
  | [], _ => pure ()
  | name :: names, fields => do
    assign name (Cell.text (fields.headD []))
    assignFields names (fields.drop 1)

/-- Reads a line of the input into variables. -/
def read (arguments : List String) : Effect Unit := do
  let (options, names) ← optionsOf ['r'] ['p'] arguments
  let raw := options.any (·.1 == 'r')
  if names.isEmpty then giveUp "arg count"
  let s ← state
  let endOf? (bytes : ByteArray) : Option Nat := lineEnd? raw bytes bytes.size 0
  let bytes := ((← offered (s.channelOf 0) fun bytes => (endOf? bytes).isSome).toOption).getD .empty
  let size := (endOf? bytes).getD bytes.size
  let (line, _, ended) := lineOf raw (ofBytes (bytes.extract 0 size)).toList
  passOver (s.channelOf 0) size
  let dividers := ((valueOf s "IFS").getD Field.usualDividers).toList
  assignFields names (Field.upTo dividers names.length line)
  answer ended

/-- Drops arguments of the script. -/
def shift (arguments : List String) : Effect Unit := do
  let count ← numberOr 1 arguments
  let s ← state
  if s.arguments.length < count then giveUp "can't shift that many"
  change fun s => { s with arguments := s.arguments.drop count, scan := .start }
  answer true

/-- Writes variables and their values, each behind the words that give it that value. -/
def list (start : String) (names : List String) : Effect Unit := do
  let s ← state
  let lines := (names.eraseDups.mergeSort fun a b => (compare a b).isLE).map fun name =>
    start ++ name ++ ((valueOf s name).elim "" fun value => "=" ++ Quoting.quoted value) ++ "\n"
  say (String.join lines)
  answer true

/-- Sets switches, and the arguments of the script if any are given; without arguments it shows
    the variables. -/
def setSwitches (arguments : List String) : Effect Unit := do
  let s ← state
  match Start.ofArguments false s.switches arguments with
  | .error unknown => giveUp unknown.complaint
  | .ok start =>
    change fun s =>
      if start.divided || !start.words.isEmpty then
        { s with switches := start.switches, arguments := start.words, scan := .start }
      else { s with switches := start.switches }
    start.table.forM fun asCommands => say (Switch.table asCommands start.switches)
    if arguments.isEmpty then list "" (s.values.map (·.1)) else answer true

/-- An argument of the form of an assignment, divided. -/
def assignment? (text : String) : Option (String × String) :=
  let name := text.toList.takeWhile (· != '=')
  match text.toList.drop name.length with
  | _ :: value => some (String.ofList name, String.ofList value)
  | [] => none

/-- Lets programs see variables, or shows those that they see. -/
def exportAll (arguments : List String) : Effect Unit := do
  let (options, words) ← optionsOf ['p'] [] arguments
  if !options.isEmpty || words.isEmpty then list "export " (← state).exported
  else
    words.forM fun word =>
      match assignment? word with
      | some (name, value) => do
        assign name value
        exportName name
      | none => do
        demandName word
        exportName word
    answer true

/-- Lets variables keep their values from now on, or shows those that do. -/
def fix (arguments : List String) : Effect Unit := do
  let (options, words) ← optionsOf ['p'] [] arguments
  if !options.isEmpty || words.isEmpty then list "readonly " (← state).fixed
  else
    words.forM fun word => do
      let name ← match assignment? word with
        | some (name, value) => do
          assign name value
          pure name
        | none => do
          demandName word
          pure word
      change fun s => { s with fixed := name :: s.fixed }
    answer true

/-- Gives a function variables of its own. -/
def keepLocal (arguments : List String) : Effect Unit := do
  if (← state).formers.isNone then giveUp "not in a function"
  arguments.forM fun argument => do
    let given := assignment? argument
    let name := (given.map (·.1)).getD argument
    demandName name
    change fun s => { s with formers := s.formers.map (formerOf s name :: ·) }
    given.forM fun entry => assign name entry.2
  answer true

/-- Takes variables away, or functions if asked to. -/
def unset (arguments : List String) : Effect Unit := do
  let (options, names) ← optionsOf ['v', 'f'] [] arguments
  let isFunction := options.getLast?.any (·.1 == 'f')
  names.forM fun name => do
    if isFunction then
      change fun s => { s with functions := s.functions.filter fun entry => entry.1 != name }
    else
      demandName name
      demandFree name
      if name == "OPTIND" then heed name ""
      change fun s =>
        { s with
          values := s.values.unset name
          exported := s.exported.filter (· != name) }
  answer true

/-- The status that the script goes on with. -/
def statusSoFar (s : State) : Nat := s.interrupted.getD s.status

/-- Ends the script. -/
def exit (arguments : List String) : Effect Unit := do
  throw (.exit (← numberOr (statusSoFar (← state)) arguments))

/-- Leaves a function. -/
def result (arguments : List String) : Effect Unit := do
  if arguments.isEmpty then throw (.result none)
  throw (.result (some (← numberOr 0 arguments)))

/-- Waits until something holds, or until a signal comes for which something is to be carried out:
    the status tells of it then. Tells whether it holds. -/
def waitUntil (holds : State → Bool) : Effect Bool := do
  pause holds none true
  let s ← state
  match s.received.find? s.isKept with
  | some signal =>
    if holds s then return true
    setStatus (128 + signal)
    return false
  | none => return true

/-- Waits for a process that was not waited for. -/
def waitFor (process : Nat) : Effect Unit := do
  if ← waitUntil fun s => hasEnded s process then
    (← reap process).forM await
    change fun s => { s with detached := s.detached.filter (· != process) }

/-- Waits for processes that were not waited for. -/
def wait : List String → Effect Unit
  | [] => do
    if ← waitUntil fun s => s.detached.all (hasEnded s) then
      (← state).detached.forM fun process => do
        let _ ← reap process
      change fun s => { s with detached := [] }
      answer true
  | target :: rest => do
    match target.toNat? with
    | none => giveUp ("Illegal number: " ++ target)
    | some process =>
      if (← state).detached.contains process then waitFor process else setStatus 127
    if !rest.isEmpty then wait rest

/-- Searches arguments for the next option. -/
def getopts (arguments : List String) : Effect Unit := do
  match ← operandsOf arguments with
  | wanted :: name :: given =>
    let s ← state
    let searched := if given.isEmpty then s.arguments else given
    let scan := if searched.length + 1 < s.scan.next then .start else s.scan
    let (found, after) := Scan.step wanted.toList searched scan
    found.flaw.forM fun flaw => complain flaw.complaint
    match found.value with
    | .kept => pure ()
    | .missing => change fun s => { s with values := s.values.unset "OPTARG" }
    | .given text => assign "OPTARG" text
    assign "OPTIND" (toString after.next)
    assign name (String.singleton found.letter)
    change fun s => { s with scan := after }
    answer (!found.isAtEnd)
  | _ => giveUp "Usage: getopts optstring var [arg...]"

/-- Shows or changes the bits of modes that new files are not given. -/
def umask (arguments : List String) : Effect Unit := do
  let (options, words) ← optionsOf ['S'] [] arguments
  let mask := (← state).world.mask
  match words with
  | [] => say ((if options.isEmpty then Mode.octal mask else Mask.clauses mask) ++ "\n")
  | text :: _ =>
    match Mask.ofText mask text with
    | .ok mask => change fun s => { s with world := { s.world with mask } }
    | .error .noNumber => giveUp ("Illegal number: " ++ text)
    | .error .noClauses => giveUp ("Illegal mode: " ++ text)
  answer true

/-- The letters of the limits that a process has. -/
def limits : List Char := "tfdscmlpnvwr".toList

/-- Shows a limit, of which there is none. -/
def ulimit (arguments : List String) : Effect Unit := do
  let (_, words) ← optionsOf ('H' :: 'S' :: 'a' :: limits) [] arguments
  if words.isEmpty then say "unlimited\n"
  answer true

/-- The number of loops that a command is about, which cannot be more than there are. -/
def loopsMeant (arguments : List String) : Effect Nat := do
  let count ← numberOr 1 arguments
  if count == 0 then giveUp ("Illegal number: " ++ arguments.headD "")
  return min count (← state).loops

/-- Leaves loops. -/
def leave (arguments : List String) : Effect Unit := do
  match ← loopsMeant arguments with
  | 0 => answer true
  | count + 1 => throw (.leave count)

/-- Goes on with the next round of a loop. -/
def again (arguments : List String) : Effect Unit := do
  match ← loopsMeant arguments with
  | 0 => answer true
  | count + 1 => throw (.again count)

/-- The command of the shell that a name stands for. -/
def find? (name : String) (arguments : List String) : Option (Effect Unit) :=
  match name with
  | ":" => some (answer true)
  | "true" => some (answer true)
  | "false" => some (answer false)
  | "echo" => some do
      say (Format.echo arguments)
      answer true
  | "printf" => some (printf arguments)
  | "test" => some (test arguments)
  | "[" => some (bracket arguments)
  | "cd" => some (Directory.change arguments)
  | "chdir" => some (Directory.change arguments)
  | "pwd" => some (Directory.print arguments)
  | "read" => some (read arguments)
  | "kill" => some (Arrangement.kill arguments)
  | "shift" => some (shift arguments)
  | "set" => some (setSwitches arguments)
  | "export" => some (exportAll arguments)
  | "readonly" => some (fix arguments)
  | "local" => some (keepLocal arguments)
  | "unset" => some (unset arguments)
  | "exit" => some (exit arguments)
  | "return" => some (result arguments)
  | "break" => some (leave arguments)
  | "continue" => some (again arguments)
  | "trap" => some (Arrangement.trap arguments)
  | "getopts" => some (getopts arguments)
  | "umask" => some (umask arguments)
  | "alias" => some (Alias.aliases arguments)
  | "unalias" => some (Alias.unalias arguments)
  | "ulimit" => some (ulimit arguments)
  | "wait" => some (wait arguments)
  | "jobs" => some (answer true)
  | "times" => some do
      say "0m0.000000s 0m0.000000s\n0m0.000000s 0m0.000000s\n"
      answer true
  | _ => none

end Builtin
end Shell
end SuiteCoverage
