import SuiteCoverage.Executable
import SuiteCoverage.Shell.Utility.Basic
import SuiteCoverage.Shell.Utility.Texts

/-!
# Utilities that run programs

The utilities that let a program take their place, with another environment, for a limited time,
or apart from what the others do, and the one that makes commands of what it reads. What executing
a program does is told from outside.
-/

set_option autoImplicit false

namespace SuiteCoverage
namespace Shell
namespace Utility

open Effect

/-- Does what a program does, in the process that carries it out. -/
abbrev Launcher := Invocation → Effect Unit

/-- What executing a program comes down to in the environment of a process. A file that is for no
    interpreter is a script. -/
def sought (name : String) (arguments : List String) : Effect (Except Fault Invocation) := do
  let s ← state
  let world := { s.world with env := environment s }
  match world.resolve (toText name) (arguments.map toText) with
  | .error .formatUnknown =>
    let path := (world.pathFor? (toText name)).getD (toText name)
    return .ok (.ofScript path (arguments.map toText))
  | result => return result

/-- Lets a program take the place of a utility. -/
def become {α : Type} (launcher : Launcher) (invocation : Invocation) : Effect α := do
  flush
  settle (← caught (launcher invocation))
  throw (.exit (← state).status)

/-- Starts a program as a process of its own, and gives back the number of the process. -/
def launch (launcher : Launcher) (directions : List (Nat × Channel)) (invocation : Invocation) :
    Effect Nat := do
  flush
  startWith directions (launcher invocation)

/-- The status for a program that could not be run. -/
def refusalOf (fault : Fault) : Nat := if fault == .notFound then 127 else 126

/-- Lets the program that words name take the place of a utility, or says why it cannot be run. -/
def becomeNamed (launcher : Launcher) (start : String) : List String → Effect Unit
  | [] => pure ()
  | name :: arguments => do
    match ← sought name arguments with
    | .ok invocation => become launcher invocation
    | .error fault =>
      blame (start ++ Quoting.name name ++ ": " ++ fault.reason)
      throw (.exit (refusalOf fault))

/-! ## Environments -/

/-- The options of `env`. -/
def envFlags : Flags :=
  ⟨"i0v".toList, "uCS".toList,
    [("ignore-environment", 'i'), ("null", '0'), ("unset", 'u'), ("chdir", 'C'),
      ("split-string", 'S'), ("debug", 'v')]⟩

/-- What is wrong with a text that stands for several arguments. -/
inductive SplitFlaw where
  | openQuote
  | unknownEscape (c : Char)
  | loneBackslash
  | stopInQuotes
  | noName (rest : List Char)

/-- What is wrong with a text that stands for several arguments, in words. -/
def SplitFlaw.complaint : SplitFlaw → String
  | openQuote => "no terminating quote in -S string"
  | unknownEscape c => "invalid sequence '\\" ++ String.singleton c ++ "' in -S"
  | loneBackslash => "invalid backslash at end of string in -S"
  | stopInQuotes => "'\\c' must not appear in double-quoted -S string"
  | noName rest =>
    "only $\x7bVARNAME\x7d expansion is supported, error at: " ++ String.ofList rest

/-- How far a text has been divided into arguments. -/
structure Splitting where
  done : List String
  /-- The argument that has begun, the last character first. -/
  current : Option (List Char)
  quote : Option Char

namespace Splitting

/-- Nothing divided yet. -/
def start : Splitting := ⟨[], none, none⟩

/-- With another character of the current argument. -/
def push (s : Splitting) (c : Char) : Splitting :=
  { s with current := some (c :: s.current.getD []) }

/-- With the current argument at its end. -/
def close (s : Splitting) : Splitting :=
  { s with
    done := s.done ++ (s.current.map fun text => String.ofList text.reverse).toList
    current := none }

/-- The character that a letter behind a backslash stands for. -/
def escaped? (c : Char) : Option Char :=
  match c with
  | 'f' => some '\x0c'
  | 'n' => some '\n'
  | 'r' => some '\r'
  | 't' => some '\t'
  | 'v' => some '\x0b'
  | '"' => some '"'
  | '\'' => some '\''
  | '\\' => some '\\'
  | '#' => some '#'
  | '$' => some '$'
  | _ => none

/-- The arguments that a text stands for, where names of the environment have values. -/
def read (value : String → Option String) : Nat → Splitting → List Char →
    Except SplitFlaw (List String)
  | 0, s, _ => .ok s.close.done
  | _, s, [] => if s.quote.isSome then .error .openQuote else .ok s.close.done
  | fuel + 1, s, c :: rest =>
    let isSingle := s.quote == some '\''
    let isDouble := s.quote == some '"'
    if s.quote == some c then read value fuel { s with quote := none } rest
    else if (c == '"' || c == '\'') && s.quote.isNone then
      read value fuel { s with quote := some c, current := some (s.current.getD []) } rest
    else if c.isWhitespace && s.quote.isNone then read value fuel s.close rest
    else if c == '#' && s.quote.isNone && s.current.isNone then .ok s.done
    else if c == '\\' && !isSingle then
      match rest with
      | [] => .error .loneBackslash
      | 'c' :: _ => if isDouble then .error .stopInQuotes else .ok s.close.done
      | '_' :: after => read value fuel (if isDouble then s.push ' ' else s.close) after
      | d :: after =>
        match escaped? d with
        | some e => read value fuel (s.push e) after
        | none => .error (.unknownEscape d)
    else if c == '\\' && isSingle then
      match rest with
      | '\\' :: after => read value fuel (s.push '\\') after
      | '\'' :: after => read value fuel (s.push '\'') after
      | _ => read value fuel (s.push '\\') rest
    else if c == '$' && !isSingle then
      match rest with
      | '\x7b' :: inside =>
        let name := inside.takeWhile (· != '\x7d')
        match inside.drop name.length with
        | _ :: after =>
          if isName (String.ofList name) then
            let text := ((value (String.ofList name)).getD "").toList
            let s := if text.isEmpty then s else
              { s with current := some (text.reverse ++ s.current.getD []) }
            read value fuel s after
          else .error (.noName (c :: rest))
        | [] => .error (.noName (c :: rest))
      | _ => .error (.noName (c :: rest))
    else read value fuel (s.push c) rest

end Splitting

/-- The arguments in which those that stand for several are replaced by them, with as many steps as
    that can take. -/
def splitArguments (value : String → Option String) :
    Nat → List String → Except (String × Bool) Flags.Choice
  | 0, arguments => .ok ⟨[], arguments⟩
  | fuel + 1, arguments =>
    let splitAt? := (List.range' 1 arguments.length).findSome? fun count =>
      match envFlags.readFront (arguments.take count) with
      | .ok choice =>
        if choice.operands.isEmpty then (choice.value? 'S').map fun text => (count, choice, text)
        else none
      | .error _ => none
    match splitAt? with
    | none => (envFlags.readFront arguments).mapError fun flaw => (flaw.complaint, true)
    | some (count, choice, text) => do
      let words ← (Splitting.read value (text.length + 1) .start text.toList).mapError fun flaw =>
        (flaw.complaint, false)
      let after ← splitArguments value fuel (words ++ arguments.drop count)
      return ⟨choice.options ++ after.options, after.operands⟩

/-- Writes what an option of `env` does, if that is asked for. -/
def envTrace (choice : Flags.Choice) (text : String) : Effect Unit := do
  if choice.has 'v' then complain text

/-- Changes the environment as the options of `env` ask for. -/
def changeEnvironment (choice : Flags.Choice) : Effect Unit := do
  if choice.has 'i' || choice.operands.head? == some "-" then
    envTrace choice "cleaning environ"
    change fun s => { s with values := [] }
  choice.options.forM fun option => do
    if option.1 == 'u' then
      if option.2.isEmpty || option.2.toList.contains '=' then
        blame ("cannot unset " ++ Quoting.name option.2 ++ ": Invalid argument")
        throw (.exit 125)
      envTrace choice ("unset:    " ++ option.2)
      change fun s => { s with values := s.values.unset option.2 }

/-- Changes the environment and the directory, and runs a program or shows the environment. -/
def env (launcher : Launcher) (arguments : List String) : Effect Unit := do
  let values := (← state).values
  let steps := (arguments.map String.length).foldl (· + ·) arguments.length
  match splitArguments (values.get? ·) steps arguments with
  | .error (complaint, isCall) =>
    if isCall then blameCallWith 125 complaint
    else
      blame complaint
      setStatus 125
  | .ok choice =>
    if choice.has 'v' then
      choice.options.forM fun option => do
        if option.1 == 'S' then
          complain ("split -S:  " ++ Quoting.name option.2)
          let words := Splitting.read (values.get? ·) (option.2.length + 1) .start option.2.toList
          ((words.toOption.getD []).zipIdx).forM fun (word, n) =>
            complain ((if n == 0 then " into:    " else "     &    ") ++ Quoting.name word)
    changeEnvironment choice
    let words := choice.operands.drop (if choice.operands.head? == some "-" then 1 else 0)
    let (settings, command) := words.span fun word => (Builtin.assignment? word).isSome
    settings.forM fun setting =>
      (Builtin.assignment? setting).forM fun entry => do
        envTrace choice ("setenv:   " ++ setting)
        put entry.1 entry.2
        exportName entry.1
    if command.isEmpty && (choice.value? 'C').isSome then
      blameCallWith 125 "must specify command with --chdir (-C)"
    else if !command.isEmpty && choice.has '0' then
      blameCallWith 125 "cannot specify --null (-0) with command"
    else
      (choice.value? 'C').forM fun target => do
        envTrace choice ("chdir:    " ++ Quoting.name target)
        match (← state).world.changeDirectory (pathOf target) with
        | .ok world => change fun s => { s with world }
        | .error fault =>
          blame ("cannot change directory to " ++ Quoting.name target ++ ": " ++ fault.reason)
          throw (.exit 125)
      match command with
      | [] => printenv (if choice.has '0' then ["-0"] else [])
      | name :: _ =>
        if choice.has 'v' then
          complain ("executing: " ++ name)
          command.zipIdx.forM fun (word, n) =>
            complain ("   arg[" ++ toString n ++ "]= " ++ Quoting.name word)
        becomeNamed launcher "" command

/-! ## Programs for a time -/

/-- The options of `timeout`. -/
def timeoutFlags : Flags :=
  ⟨"vfp".toList, "ks".toList,
    [("foreground", 'f'), ("kill-after", 'k'), ("preserve-status", 'p'), ("signal", 's'),
      ("verbose", 'v')]⟩

/-- The signal that an argument names, with or without the letters that all names begin with. -/
def signalNamed? (text : String) : Option Nat :=
  let isLong := (text.take 3).toString.toUpper == "SIG"
  Signal.ofText? 0 (if isLong then (text.drop 3).toString else text)

/-- Waits for a process until a time, and passes on the signals that come meanwhile. -/
def waitPassingOn (process : Nat) (deadline : Option Nat) : Nat → Effect Unit
  | 0 => pure ()
  | fuel + 1 => do
    pause (fun s => hasEnded s process) deadline true
    let s ← state
    match s.received.find? s.isKept with
    | none => pure ()
    | some signal =>
      take signal
      ((membersOf s s.group).filter (· != s.process)).forM fun member => do
        let _ ← send member signal
      waitPassingOn process deadline fuel

/-- Sends a signal to a program whose time is over and to all that belongs to it. -/
def callTime (choice : Flags.Choice) (name : String) (process signal : Nat) : Effect Unit := do
  if choice.has 'v' then
    blame ("sending signal " ++ Signal.shortName signal ++ " to command " ++ Quoting.name name)
  if choice.has 'f' then
    let _ ← send process signal
  else
    let s ← state
    change fun s =>
      { s with
        ignored := signal :: s.ignored
        arrangements := s.arrangements.filter fun entry => entry.1 != signal }
    let _ ← sendToGroup s.group signal

/-- Runs a program for a time. -/
def runFor (launcher : Launcher) (choice : Flags.Choice) (time : Nat) (later : Option Nat)
    (signal : Nat) (name : String) (invocation : Invocation) : Effect Unit := do
  if !choice.has 'f' then change fun s => { s with group := s.process }
  let process ← launch launcher [] invocation
  change fun s => { s with arrangements := [1, 2, 3, 15].map fun signal => (signal, "passed on") }
  let start := (← state).time
  waitPassingOn process (if time == 0 then none else some (start + time)) readLimit
  let isLate := !hasEnded (← state) process
  if isLate then
    callTime choice name process signal
    (later.filter (· != 0)).forM fun later => do
      let now := (← state).time
      waitPassingOn process (some (now + later)) readLimit
      if !hasEnded (← state) process then callTime choice name process 9
    waitPassingOn process none readLimit
  let keeps := choice.has 'p'
  match ← endOf process with
  | .status status => setStatus (if isLate && !keeps then 124 else status)
  | .signal signal =>
    if !isLate then throw (.killed signal)
    setStatus (if keeps || signal == 9 then 128 + signal else 124)

/-- Runs a program, and ends it if it takes too long. -/
def timeout (launcher : Launcher) (arguments : List String) : Effect Unit :=
  match timeoutFlags.readFront arguments with
  | .error flaw => blameCallWith 125 flaw.complaint
  | .ok choice => do
    let badSignal := (choice.options.filter (·.1 == 's')).find? fun option =>
      (signalNamed? option.2).isNone
    let intervals := (choice.options.filter (·.1 == 'k')).map (·.2) ++ choice.operands.take 1
    let badInterval := intervals.find? fun text => (duration? text).isNone
    match badSignal, choice.operands with
    | some option, _ => blameCallWith 125 (Quoting.name option.2 ++ ": invalid signal")
    | none, time :: name :: rest =>
      match badInterval with
      | some text => blameCallWith 125 ("invalid time interval " ++ Quoting.name text)
      | none =>
        match ← sought name rest with
        | .error fault =>
          blame ("failed to run command " ++ Quoting.name name ++ ": " ++ fault.reason)
          setStatus (refusalOf fault)
        | .ok invocation =>
          runFor launcher choice ((duration? time).getD 0) ((choice.value? 'k').bind duration?)
            (((choice.value? 's').bind signalNamed?).getD 15) name invocation
    | none, _ =>
      complain ("Try '" ++ (← state).self ++ " --help' for more information.")
      setStatus 125

/-! ## Programs apart from others -/

/-- Runs a program that goes on when its terminal is gone. -/
def nohup (launcher : Launcher) (arguments : List String) : Effect Unit :=
  match Flags.readFront ⟨[], [], []⟩ arguments with
  | .error flaw => blameCallWith 125 flaw.complaint
  | .ok choice => do
    if choice.operands.isEmpty then blameCallWith 125 "missing operand"
    change fun s => { s with ignored := 1 :: s.ignored }
    becomeNamed launcher "failed to run command " choice.operands

/-- The options of `nice`; a number behind a hyphen is one as well. -/
def niceFlags : Flags :=
  ⟨[], ['n'], [("adjustment", 'n')]⟩

/-- The whole number that a text is, with a sign if it has one. -/
def signed? (text : String) : Option Int :=
  match text.toList with
  | '-' :: digits => (count? (String.ofList digits)).map fun n => -(n : Int)
  | '+' :: digits => (count? (String.ofList digits)).map fun n => (n : Int)
  | _ => (count? text).map fun n => (n : Int)

/-- Arguments in which numbers behind a hyphen are given as values of an option. -/
def withAdjustments : List String → List String
  | "-n" :: value :: rest => "-n" :: value :: withAdjustments rest
  | first :: rest =>
    match first.toList with
    | '-' :: letters =>
      let text := String.ofList letters
      if (signed? text).isSome then ("-n" ++ text) :: withAdjustments rest else first :: rest
    | _ => first :: rest
  | [] => []

/-- Runs a program that lets others go first, or tells how much it does. -/
def nice (launcher : Launcher) (arguments : List String) : Effect Unit :=
  match niceFlags.readFront (withAdjustments arguments) with
  | .error flaw => blameCallWith 125 flaw.complaint
  | .ok choice => do
    let current := (← state).niceness
    match choice.value? 'n', choice.operands with
    | none, [] => sayLines [toString current]
    | some text, command =>
      match signed? text with
      | none =>
        blame ("invalid adjustment " ++ Quoting.name text)
        setStatus 125
      | some step =>
        if command.isEmpty then
          blameCallWith 125 "a command must be given with an adjustment"
        else
          if step < 0 then blame "cannot set niceness: Permission denied"
          else adjust step
          becomeNamed launcher "" command
    | none, command =>
      adjust 10
      becomeNamed launcher "" command
where
  /-- Lets others go first a step more. -/
  adjust (step : Int) : Effect Unit :=
    change fun s => { s with niceness := min 19 (s.niceness + step.toNat) }

/-- The options of `stdbuf`. -/
def stdbufFlags : Flags :=
  ⟨[], "ioe".toList, [("input", 'i'), ("output", 'o'), ("error", 'e')]⟩

/-- Runs a program that writes in pieces of a size. -/
def stdbuf (launcher : Launcher) (arguments : List String) : Effect Unit :=
  match stdbufFlags.readFront arguments with
  | .error flaw => blameCallWith 125 flaw.complaint
  | .ok choice => do
    let wrong := choice.options.find? fun option => option.2 != "L" && (size? option.2).isNone
    match wrong with
    | some option =>
      blame ("invalid mode " ++ Quoting.name option.2)
      setStatus 125
    | none =>
      if choice.operands.isEmpty then blameCallWith 125 "missing operand"
      else if choice.options.isEmpty then
        blameCallWith 125 "you must specify a buffering mode option"
      else becomeNamed launcher "failed to run command " choice.operands

/-- Runs a program in a group of its own. -/
def setsid (launcher : Launcher) (arguments : List String) : Effect Unit :=
  let flags : Flags := ⟨"cfw".toList, [], [("ctty", 'c'), ("fork", 'f'), ("wait", 'w')]⟩
  match flags.readFront arguments with
  | .error flaw => blameCall flaw.complaint
  | .ok choice => do
    match choice.operands with
    | [] => blameCall "no command specified"
    | name :: rest =>
      match ← sought name rest with
      | .error fault =>
        blame ("failed to execute " ++ name ++ ": " ++ fault.reason)
        setStatus (refusalOf fault)
      | .ok invocation =>
        let lead : Effect Unit := do
          change fun s => { s with group := s.process }
          become launcher invocation
        if choice.has 'f' then
          flush
          let process ← start lead
          if choice.has 'w' then
            match ← endOf process with
            | .status status => setStatus status
            | .signal _ => setStatus 1
        else lead

end Utility
end Shell
end SuiteCoverage
