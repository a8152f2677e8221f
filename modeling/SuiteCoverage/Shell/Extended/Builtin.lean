import SuiteCoverage.Shell.Alias
import SuiteCoverage.Shell.Extended.Asking
import SuiteCoverage.Shell.Extended.Directories
import SuiteCoverage.Shell.Extended.Jobs
import SuiteCoverage.Shell.Extended.Lookup
import SuiteCoverage.Shell.Extended.Reading
import SuiteCoverage.Shell.Extended.Setting
import SuiteCoverage.Shell.Extended.Switches
import SuiteCoverage.Shell.Format
import SuiteCoverage.Disk.Mode
import SuiteCoverage.Shell.Scan

/-!
# Commands of the extended shell

The commands that the shell carries out itself, apart from those that carry out other commands.
-/

set_option autoImplicit false

/-!
## Writing texts

What `echo` and `printf` of the extended shell write. The text of a format can also be given to a
variable.
-/

namespace SuiteCoverage
namespace Shell
namespace Extended
namespace Writing

open Effect

/-- Whether a word is an option of `echo`. -/
def isEchoOption (word : String) : Bool :=
  match word.toList with
  | '-' :: c :: rest => (c :: rest).all "neE".toList.contains
  | _ => false

/-- Does what `echo` does. -/
def echo (arguments : List String) : Effect Unit := do
  let options := (arguments.takeWhile isEchoOption).flatMap fun word => word.toList.drop 1
  let words := arguments.dropWhile isEchoOption
  let usual ← isOn "xpg_echo"
  let escapes := ((options.filter (· != 'n')).getLast?).elim usual (· == 'e')
  let text := " ".intercalate words
  let (shown, goesOn) := if escapes then Escape.expand .argument text else (text, true)
  say (if options.contains 'n' || !goesOn then shown else shown ++ "\n")
  answer true

/-- Does what `printf` does. -/
def printf (arguments : List String) : Effect Unit := do
  let (options, words) ← options "" "v" arguments
  let target := (options.getLast?.map (·.2))
  if let some name := target then
    if !Setting.isName (Store.Target.ofText name).name then
      Setting.refuseName name
      failWith misuse
  match words with
  | [] => refuseUsage
  | format :: values =>
    let now := (← state).time
    let seconds := (World.startTime + (now : Int)) / 1000000
    let printing := Format.printf .extended seconds format values
    printing.complaints.forM object
    match target with
    | some name =>
      let text := printing.output.takeWhile (· != '\x00')
      if !(← Setting.give name (String.ofList text)) then failWith 1
    | none => say (String.ofList printing.output)
    answer (!printing.isFailed)

end Writing
end Extended
end Shell
end SuiteCoverage

namespace SuiteCoverage
namespace Shell
namespace Extended
namespace Builtin

open Effect

/-- Drops the rest of what was read at once, after a command of the shell was given too much. -/
def refuseMany {α : Type} : Effect α := do
  object "too many arguments"
  discard

/-- Drops a mark for the end of options. -/
def operands (arguments : List String) : List String :=
  if arguments.head? == some "--" then arguments.drop 1 else arguments

/-- Drops arguments of the script. -/
def shift (arguments : List String) : Effect Unit := do
  let s ← state
  match operands arguments with
  | _ :: _ :: _ => refuseMany
  | [] =>
    if s.arguments.isEmpty then answer false
    else
      change fun s => { s with arguments := s.arguments.drop 1 }
      answer true
  | [text] =>
    match Arithmetic.decimal? text with
    | none => fail (text ++ ": numeric argument required")
    | some n =>
      if n < 0 then fail (text ++ ": shift count out of range")
      else if (s.arguments.length : Int) < n then
        if ← isOn "shift_verbose" then object (text ++ ": shift count out of range")
        answer false
      else
        change fun s => { s with arguments := s.arguments.drop n.toNat }
        answer true

/-- The status with which the shell ends unless it is told another: at its end, the one that it had
    before what is arranged for that. -/
def statusSoFar (s : State) : Nat :=
  if s.own.arranged.head? == some Trapping.atEnd then s.interrupted.getD s.status else s.status

/-- The status that a function is left with unless it is told another: in an arrangement, the one
    from before it. -/
def resultSoFar? (s : State) : Option Nat :=
  match s.own.arranged.head? with
  | some occasion => if occasion = Trapping.beforeCommand then none else s.interrupted
  | none => none

/-- Ends the shell. -/
def exit (arguments : List String) : Effect Unit := do
  match operands arguments with
  | [] => throw (.exit (statusSoFar (← state)))
  | [text] =>
    match Arithmetic.decimal? text with
    | some n => throw (.exit (n % 256).toNat)
    | none =>
      object (text ++ ": numeric argument required")
      throw (.exit misuse)
  | text :: _ =>
    if (Arithmetic.decimal? text).isNone then
      object (text ++ ": numeric argument required")
      throw (.exit misuse)
    else refuseMany

/-- Leaves a function or a file. -/
def result (arguments : List String) : Effect Unit := do
  let s ← state
  let isInside := s.own.calls.any fun call => call.isFunction || call.name = "source"
  match operands arguments with
  | _ :: _ :: _ => refuseMany
  | words =>
    let status ← match words with
      | [] => pure (resultSoFar? s)
      | text :: _ =>
        match Arithmetic.decimal? text with
        | some n => pure (some (n % 256).toNat)
        | none =>
          object (text ++ ": numeric argument required")
          pure (some misuse)
    if !isInside then
      object "can only \u0060return' from a function or sourced script"
      failWith misuse
    throw (.result status)

/-- Leaves loops, or goes on with their next rounds. -/
def leave (stop : Nat → Stop) (arguments : List String) : Effect Unit := do
  let s ← state
  if s.loops = 0 then
    object "only meaningful in a \u0060for', \u0060while', or \u0060until' loop"
    answer true
  else
    match operands arguments with
    | _ :: _ :: _ => refuseMany
    | [] => throw (stop 0)
    | text :: _ =>
      match Arithmetic.decimal? text with
      | none =>
        object (text ++ ": numeric argument required")
        setStatus 128
        throw .discarded
      | some n =>
        if n ≤ 0 then
          object (text ++ ": loop count out of range")
          setStatus 1
          throw (.leave (s.loops - 1))
        else throw (stop (min n.toNat s.loops - 1))

/-- Calculates. -/
def calculate (arguments : List String) : Effect Unit := do
  match operands arguments with
  | [] => fail "expression expected"
  | words =>
    let results ← words.mapM fun word => do
      match ← calculated "let" word with
      | some n => return n
      | none => failWith 1
    answer (results.getLast?.any (· != 0))

/-- Tells from where the present function has been called. -/
def caller (arguments : List String) : Effect Unit := do
  let calls := (← state).own.calls
  let line (n : Nat) : Nat := (calls[n]?.map Call.line).getD 0
  let source (n : Nat) : String := (calls[n]?.map Call.source).getD "NULL"
  match operands arguments with
  | [] =>
    if calls.any (·.isFunction) || 1 < calls.length then
      say (toString (line 0) ++ " " ++ source 1 ++ "\n")
    else say "0 NULL\n"
    answer true
  | text :: _ =>
    match text.toNat? with
    | none =>
      object (text ++ ": invalid number")
      refuseUsage
    | some n =>
      match calls[n + 1]? with
      | some call =>
        say (toString (line n) ++ " " ++ call.name ++ " " ++ call.source ++ "\n")
        answer true
      | none => answer false

/-- Searches arguments for the next option. -/
def getopts (arguments : List String) : Effect Unit := do
  match operands arguments with
  | wanted :: name :: given =>
    let s ← state
    let searched := if given.isEmpty then s.arguments else given
    let scan := if searched.length + 1 < s.scan.next then .start else s.scan
    let (found, after) := Scan.step wanted.toList searched scan
    let isTold := (Store.textOf? s "OPTERR") != some "0"
    found.flaw.forM fun flaw => do
      if isTold then
        complain (s.self ++ ": " ++ match flaw with
          | .unknown letter => "illegal option -- " ++ String.singleton letter
          | .noValue letter => "option requires an argument -- " ++ String.singleton letter)
    match found.value with
    | .given text =>
      if text.isEmpty && !wanted.toList.contains ':' then
        change fun s => Store.erase s "OPTARG"
      else if (Scan.hasValue? found.letter wanted.toList) == some true || !text.isEmpty then
        let _ ← Setting.give "OPTARG" text
      else change fun s => Store.erase s "OPTARG"
    | _ => change fun s => Store.erase s "OPTARG"
    let _ ← Setting.give "OPTIND" (toString after.next)
    change fun s => { s with scan := after }
    Setting.giveOrFail name (String.singleton found.letter)
    answer (!found.isAtEnd)
  | _ => refuseUsage

/-- Shows or changes the bits of modes that new files are not given. -/
def umask (arguments : List String) : Effect Unit := do
  let (options, words) ← options "Sp" "" arguments
  let isAsked (c : Char) : Bool := options.any (·.1 == c)
  let mask := (← state).world.mask
  match words with
  | [] =>
    let shown := if isAsked 'S' then Mask.clauses mask else Mode.octal mask
    let command := if isAsked 'S' then "umask -S " else "umask "
    say ((if isAsked 'p' then command else "") ++ shown ++ "\n")
    answer true
  | text :: _ =>
    match Mask.ofText mask text with
    | .ok mask =>
      change fun s => { s with world := { s.world with mask } }
      if isAsked 'S' then say (Mask.clauses mask ++ "\n")
      answer true
    | .error .noNumber => fail (text ++ ": octal number out of range")
    | .error .noClauses =>
      let letters := text.toList.takeWhile "augo".toList.contains
      let rest := text.toList.drop letters.length
      match rest with
      | c :: more =>
        if "+-=".toList.contains c then
          let bad := more.find? fun c => !"rwxugoXs,".toList.contains c
          fail ("\u0060" ++ String.singleton (bad.getD c) ++ "': invalid symbolic mode character")
        else fail ("\u0060" ++ String.singleton c ++ "': invalid symbolic mode operator")
      | [] => fail ("\u0060" ++ text ++ "': invalid symbolic mode operator")

/-- Shows a limit, of which there is none. -/
def ulimit (arguments : List String) : Effect Unit := do
  let (_, words) ← options "SHabcdefiklmnpqrstuvxPRT" "" arguments
  if words.isEmpty then say "unlimited\n"
  answer true

/-- Makes aliases, or shows them. -/
def aliases (arguments : List String) : Effect Unit := do
  let (options, words) ← options "p" "" arguments
  let shown (entry : String × String) : String :=
    "alias " ++ entry.1 ++ "=" ++ Escape.singleQuoted entry.2 ++ "\n"
  if words.isEmpty || !options.isEmpty then
    let all := (← state).aliases.mergeSort fun a b => (compare a.1 b.1).isLE
    all.forM fun entry => say (shown entry)
  let results ← words.mapM fun word => do
    match Alias.made? word with
    | some (name, text) =>
      if name.toList.any fun c => " \t\n/$\u0060\\\"'&|;()<>".toList.contains c then
        object ("\u0060" ++ name ++ "': invalid alias name")
        return false
      Alias.make name text
      return true
    | none =>
      match (← state).aliases.find? fun entry => entry.1 == word with
      | some entry =>
        say (shown entry)
        return true
      | none =>
        object (word ++ ": not found")
        return false
  answer (results.all id)

/-- Removes aliases. -/
def unalias (arguments : List String) : Effect Unit := do
  let (options, words) ← options "a" "" arguments
  if !options.isEmpty then
    change fun s => { s with aliases := [] }
    answer true
  else if words.isEmpty then refuseUsage
  else
    let results ← words.mapM fun word => do
      let isThere := (← state).aliases.any fun entry => entry.1 == word
      if !isThere then object (word ++ ": not found")
      change fun s => { s with aliases := s.aliases.filter fun entry => entry.1 != word }
      return isThere
    answer (results.all id)

/-- Turns commands of the shell on and off, or shows them. -/
def enable (arguments : List String) : Effect Unit := do
  let (options, words) ← options "adnps" "f" arguments
  let isAsked (c : Char) : Bool := options.any (·.1 == c)
  if words.isEmpty then
    let own := (← state).own
    Lookup.builtins.forM fun name => do
      let isClosed := own.closed.contains name
      if isAsked 'a' || isClosed == isAsked 'n' then
        say ((if isClosed then "enable -n " else "enable ") ++ name ++ "\n")
    answer true
  else
    let results ← words.mapM fun word => do
      if !Lookup.builtins.contains word then
        object (word ++ ": not a shell builtin")
        return false
      changeOwn fun own =>
        { own with
          closed := if isAsked 'n' then word :: own.closed else own.closed.filter (· != word) }
      return true
    answer (results.all id)

/-- Writes the words that could complete another one. -/
def compgen (arguments : List String) : Effect Unit := do
  let (options, words) ← options "abcdefgjksuv" "AGWFCXPSo" arguments
  let isAsked (c : Char) : Bool := options.any (·.1 == c)
  let s ← state
  let action := ((options.filter fun option => option.1 == 'A').getLast?).map (·.2)
  let start := words.headD ""
  let given := (options.filter fun option => option.1 == 'W').flatMap fun option =>
    (option.2.toList.splitOnP fun c => (Expansion.dividers s).contains c).map String.ofList
  let all := given
    ++ (if isAsked 'b' || action = some "builtin" then Lookup.builtins else [])
    ++ (if isAsked 'k' || action = some "keyword" then Lookup.keywords else [])
    ++ (if action = some "function" then (Declaring.allFunctions s).map (·.1) else [])
    ++ (if isAsked 'v' || action = some "variable" then (Declaring.allVariables s).map (·.1) else [])
    ++ (if isAsked 'a' || action = some "alias" then s.aliases.map (·.1) else [])
  let found := all.filter fun word => !word.isEmpty && word.startsWith start
  found.forM fun word => say (word ++ "\n")
  answer (!found.isEmpty)

/-- Refuses what takes the control of jobs. -/
def refuseControl (sentence : String) : Effect Unit := fail sentence

/-- The commands of the shell that are given lists as well as texts. -/
def declaring : List String := ["declare", "typeset", "local", "export", "readonly"]

/-- The command of the shell with a name that declares. -/
def declaring? (carrier : Carrier) (trace : String → Effect Unit) (fuel : Nat) (name : String)
    (operands : List Declaring.Operand) : Option (Effect Unit) :=
  match name with
  | "declare" => some (Declaring.declare carrier fuel operands)
  | "typeset" => some (Declaring.declare carrier fuel operands)
  | "local" => some (Declaring.declareLocal carrier fuel operands)
  | "export" => some (Declaring.export_ carrier trace fuel operands)
  | "readonly" => some (Declaring.readonly carrier trace fuel operands)
  | _ => none

/-- The command of the shell with a name that carries out no other commands. -/
def find? (name : String) (arguments : List String) : Option (Effect Unit) :=
  match name with
  | ":" => some (answer true)
  | "true" => some (answer true)
  | "false" => some (answer false)
  | "[" => some (Asking.bracket arguments)
  | "test" => some (Asking.test arguments)
  | "alias" => some (aliases arguments)
  | "unalias" => some (unalias arguments)
  | "bg" => some (refuseControl "no job control")
  | "fg" => some (refuseControl "no job control")
  | "suspend" => some (refuseControl "cannot suspend: no job control")
  | "logout" => some (refuseControl "not login shell: use \u0060exit'")
  | "bind" => some (answer true)
  | "break" => some (leave .leave arguments)
  | "continue" => some (leave .again arguments)
  | "caller" => some (caller arguments)
  | "cd" => some (Directories.cd arguments)
  | "pwd" => some (Directories.pwd arguments)
  | "pushd" => some (Directories.pushd arguments)
  | "popd" => some (Directories.popd arguments)
  | "dirs" => some (Directories.dirs arguments)
  | "compgen" => some (compgen arguments)
  | "complete" => some (answer true)
  | "compopt" => some (answer false)
  | "disown" => some (Jobs.disown arguments)
  | "jobs" => some (Jobs.jobs arguments)
  | "wait" => some (Jobs.wait arguments)
  | "kill" => some (Trapping.kill Jobs.targetOf arguments)
  | "trap" => some (Trapping.trap arguments)
  | "echo" => some (Writing.echo arguments)
  | "printf" => some (Writing.printf arguments)
  | "enable" => some (enable arguments)
  | "exit" => some (exit arguments)
  | "return" => some (result arguments)
  | "fc" => some (answer true)
  | "history" => some (answer true)
  | "help" => some (answer true)
  | "getopts" => some (getopts arguments)
  | "hash" => some (Lookup.hash arguments)
  | "type" => some (Lookup.type arguments)
  | "let" => some (calculate arguments)
  | "read" => some (Reading.read arguments)
  | "set" => some (Switches.set arguments)
  | "shopt" => some (Switches.shopt arguments)
  | "shift" => some (shift arguments)
  | "times" => some do
    say "0m0.000s 0m0.000s\n0m0.000s 0m0.000s\n"
    answer true
  | "ulimit" => some (ulimit arguments)
  | "umask" => some (umask arguments)
  | "unset" => some (Declaring.unset arguments)
  | _ => none

end Builtin
end Extended
end Shell
end SuiteCoverage
