import SuiteCoverage.Shell.Extended.Builtin
import SuiteCoverage.Shell.Extended.Choosing
import SuiteCoverage.Shell.Extended.Programs
import SuiteCoverage.Shell.Extended.Redirecting
import SuiteCoverage.Shell.Extended.Standing
import SuiteCoverage.Shell.Extended.Telling

/-!
# Running scripts of the extended shell

Words are expanded, commands are carried out, and parts of a script that stand apart are carried
out in processes of their own. What executing a program does is told from outside. A script that is
granted too few steps stops as exhausted, which is told apart from every way in which it can end by
itself.
-/

set_option autoImplicit false

/-!
## How long commands take

How the time that a command has taken is told. A format says how, with three kinds of time: that
which has passed, and that which the command and the system have been busy for.
-/

namespace SuiteCoverage
namespace Shell
namespace Extended
namespace Timing

/-- The usual format. -/
def usual : String := "\nreal\t%3lR\nuser\t%3lU\nsys\t%3lS"

/-- The format that is the same for all shells. -/
def portable : String := "real %2R\nuser %2U\nsys %2S"

/-- A time in millionths of a second with a number of decimal places, with minutes apart if `long`. -/
def shown (places : Nat) (long : Bool) (micros : Nat) : String :=
  let seconds := micros / 1000000
  let thousandths := Store.padded 3 (micros % 1000000 / 1000)
  let fraction := if places = 0 then "" else "." ++ (thousandths.take places).toString
  if long then toString (seconds / 60) ++ "m" ++ toString (seconds % 60) ++ fraction ++ "s"
  else toString seconds ++ fraction

/-- What a format says of a time that has passed, or the letter in the format that means nothing. -/
def toldUpTo (micros : Nat) : Nat → List Char → Except Char (List Char)
  | 0, _ => .ok []
  | _, [] => .ok []
  | fuel + 1, '%' :: '%' :: rest => (toldUpTo micros fuel rest).map ('%' :: ·)
  | fuel + 1, '%' :: 'P' :: rest => (toldUpTo micros fuel rest).map ("0.00".toList ++ ·)
  | fuel + 1, '%' :: c :: rest =>
    let places := if c.isDigit then min 3 (c.toNat - '0'.toNat) else 3
    let after := if c.isDigit then rest else c :: rest
    let long := after.head? == some 'l'
    let after := if long then after.drop 1 else after
    let letter := after.headD '\x00'
    if letter = 'R' || letter = 'E' then
      (toldUpTo micros fuel (after.drop 1)).map ((shown places long micros).toList ++ ·)
    else if letter = 'U' || letter = 'S' then
      (toldUpTo micros fuel (after.drop 1)).map ((shown places long 0).toList ++ ·)
    else .error letter
  | fuel + 1, c :: rest => (toldUpTo micros fuel rest).map (c :: ·)

/-- What a format says of a time that has passed, or the letter in the format that means nothing. -/
def told (micros : Nat) (format : String) : Except Char String :=
  (toldUpTo micros (format.length + 1) format.toList).map String.ofList

/-- Tells how long a command has taken, in the usual way for all shells if `isPortable`. -/
def tellTime (isPortable : Bool) (micros : Nat) : Effect Unit := do
  let s ← Effect.state
  let format := if isPortable then portable else (Store.textOf? s "TIMEFORMAT").getD usual
  if !format.isEmpty then
    match told micros format with
    | .ok text => Effect.complain text
    | .error letter =>
      tell ("TIMEFORMAT: \u0060" ++ String.singleton letter ++ "': invalid format character")

end Timing
end Extended
end Shell
end SuiteCoverage

namespace SuiteCoverage
namespace Shell
namespace Extended
namespace Run

open Effect
open Utility (Launcher)
open Declaring (Operand)

/-- How a command is looked for. -/
structure Sought where
  /-- Whether functions count. -/
  functions : Bool
  /-- The directories in which programs are looked for, if not the usual ones. -/
  places : Option String

/-- A command that is looked for in the usual way. -/
def Sought.anywhere : Sought := ⟨true, none⟩

/-- The operands that arguments stand for. -/
def operandsOf (carrier : Carrier) (fuel : Nat) : List Argument → Effect (List Operand)
  | [] => return []
  | .word word :: rest => do
    let texts ← Expansion.fields carrier fuel [word]
    return texts.map Operand.text ++ (← operandsOf carrier fuel rest)
  | .assignment (.mk name place adds given) :: rest => do
    let first ← match given with
      | .list entries => pure (Operand.list name place adds entries)
      | .text _ word => do
        let shown ← match place with
          | .none => pure name
          | .all joined => pure (name ++ if joined then "[*]" else "[@]")
          | .at_ _ word => pure (name ++ "[" ++ (← Expansion.text carrier fuel word) ++ "]")
        let value ← Expansion.value carrier fuel word
        pure (Operand.text (shown ++ (if adds then "+=" else "=") ++ value))
    return first :: (← operandsOf carrier fuel rest)

/-- Gives a command a variable of its own. -/
def pass (carrier : Carrier) (fuel : Nat) : Assignment → Effect Unit
  | .mk name _ adds (.text _ word) => do
    let value ← Expansion.value carrier fuel word
    Tracing.write carrier fuel (Expansion.shownAssignment name .none adds value)
    if ← Setting.isFree name then
      let before := (Store.variableOr (← state) name).value.text?.getD ""
      let v : Variable := ⟨.text (if adds then before ++ value else value), ['x']⟩
      change fun s => Store.withScopes s fun scopes =>
        scopes.changeFirst (fun _ => true) fun scope => scope.put name (some v)
  | .mk _ _ _ (.list _) => pure ()

/-- An entry of a list as it is shown before it is given to a variable. -/
def shownEntry : Entry → String
  | .plain word => Escape.singleQuoted word.raw
  | .placed place _ adds raw _ =>
    "[" ++ Escape.singleQuoted place ++ "]" ++ (if adds then "+=" else "=")
      ++ Escape.singleQuoted raw

/-- Shows operands that are lists. -/
def traceLists (trace : String → Effect Unit) (operands : List Operand) : Effect Unit :=
  operands.forM fun
    | .list name _ adds entries =>
      trace (name ++ (if adds then "+=" else "=") ++ "("
        ++ " ".intercalate (entries.map shownEntry) ++ ")")
    | .text _ => pure ()

/-- Carries out a command of the shell. One that has failed has told so. -/
def asBuiltin (name : String) (effect : Effect Unit) : Effect Unit := do
  let stop ← caught (asRunner name effect)
  let s ← state
  change fun s => { s with shortfall := none }
  match stop with
  | some .failed => pure ()
  | stop => stop.forM throw
  s.shortfall.forM fun fault => do
    asRunner name (object ("write error: " ++ fault.reason))
    setStatus 1

/-- What a name stands for, where a file is to be carried out: one in the directories in which
    programs are looked for, or else the one at that path. -/
def scriptPath (s : State) (file : String) : Pathname :=
  let found := if file.toList.contains '/' || !s.own.has "sourcepath" then none
    else (pathsIn (Lookup.places s) file).find? fun p =>
      match s.world.stat p with
      | .ok node => node.isRegular
      | .error _ => false
  found.getD ⟨toText file⟩

/-- The content of a file that is to be carried out. -/
def scriptText (s : State) (p : Pathname) : Effect (Except Fault String) := do
  match Redirection.descriptorAt? (ofText p.spelling) with
  | some number => readAll (s.channelOf number)
  | none => return (s.world.readBytes p).map ofBytes

/-- The file that is read into the output if that is all that steps do. -/
def fileOf? : List Step → Option Redirect
  | [.mk .always false none [.simple _ [] [] [.to .usual .input target]] false] =>
    some (.to .usual .input target)
  | _ => none

/-- The arrangements that do not hold inside a function, and those that do. -/
def hidden (s : State) (isFile : Bool) : List (Nat × String) :=
  s.arrangements.filter fun entry =>
    (entry.1 = Trapping.beforeCommand || (!isFile && entry.1 = Trapping.afterFunction)
      || (!isFile && entry.1 = Trapping.afterFailure)) && !isInherited s.own entry.1

/-- Lets arrangements hold again unless others have been made meanwhile. -/
def bringBack (formers : List (Nat × String)) : Effect Unit :=
  change fun s =>
    let missing := formers.filter fun entry => (s.arrangement? entry.1).isNone
    { s with arrangements := missing ++ s.arrangements }

/-- Leaves a function that was called in a state. -/
def leaveFunction (before : State) : Effect Unit := do
  let s ← state
  let count := s.own.scopes.length - before.own.scopes.length
  let ended : List Scope := s.own.scopes.take count
  let enabled := (ended.findSome? Scope.switches).getD s.own.enabled
  let hasPlace := ended.any fun scope => (scope.find? "OPTIND").isSome
  change fun s =>
    { s with
      arguments := before.arguments
      loops := before.loops
      line := before.line
      scan := if hasPlace then before.scan else s.scan
      own :=
        { s.own with
          scopes := s.own.scopes.drop count
          calls := before.own.calls
          failureLine := before.own.failureLine
          enabled } }

/-- Takes the variables away that a command has been given, except for those that it has made the
    shell's own. -/
def takeBack (kept : List String) : Effect Unit := do
  let scopes : List Scope := (← state).own.scopes
  let passed := (scopes.head?.map Scope.entries).getD []
  change fun s => Store.withScopes s fun scopes => scopes.drop 1
  (passed.filter fun entry => kept.contains entry.1).forM fun (name, v) =>
    change fun s => Store.put s name v

/-- Takes note of a function. -/
def define (line : Nat) (name : String) (body : Task) : Effect Unit := do
  let s ← state
  let before := Lookup.function? s name
  if before.any (·.isFixed) then
    tell (name ++ ": readonly function")
    setStatus 1
  else
    let source := (s.own.calls.head?.map Call.source).getD
      (if s.own.commandText.isSome then "environment" else "main")
    let f : Function := ⟨body, source, line, before.any (·.isExported), false⟩
    changeOwn fun own =>
      { own with functions := (name, f) :: own.functions.filter fun entry => entry.1 != name }
    setStatus 0

/-- Gives a variable an item, and tells whether that could be done. -/
def giveItem (name item : String) : Effect Bool := do
  let s ← state
  match s.own.scopes.find? name with
  | some v =>
    if v.has 'n' then
      if v.has 'r' then
        tell (name ++ ": readonly variable")
        return false
      if !Setting.isName (Store.Target.ofText item).name then
        tell ("\u0060" ++ item ++ "': not a valid identifier")
        return false
      change fun s => Store.put s name { v with value := .text item }
      return true
    else Setting.give name item
  | none => Setting.give name item

/-- Whether a text can be the name of what a loop runs through; if not, that is told. -/
def isLoopName (name : String) : Effect Bool := do
  if Setting.isName name then return true
  tell ("\u0060" ++ name ++ "': not a valid identifier")
  setStatus 1
  return false

/-- The items of a loop as they stand in the script. -/
def shownItems (items : Option (List Word)) : String :=
  match items with
  | some words => " ".intercalate (words.map Word.raw)
  | none => "\"$@\""

/-- Goes on after the body of a loop has been carried out once: with `next`, or with what follows the
    loop. -/
def afterRound (stop : Option Stop) (next : Effect Unit) : Effect Unit := do
  match stop with
  | none => next
  | some (.leave 0) => setStatus 0
  | some (.leave (n + 1)) => throw (.leave n)
  | some (.again 0) =>
    setStatus 0
    next
  | some (.again (n + 1)) => throw (.again n)
  | some stop => throw stop

/-- Counts one shell less, because a program takes the place of this one. -/
def lowerLevel : Effect Unit :=
  change fun s =>
    let level := ((Store.textOf? s "SHLVL").bind String.toNat?).getD 1
    Store.putText s "SHLVL" (toString (level - 1))

/-- The words that warn of documents that have not come to their ends. -/
def warnOfDocuments (unended : List (Nat × Nat × String)) : Effect Unit :=
  unended.forM fun (atEnd, line, delimiter) => do
    let s ← state
    complain (speaker s ++ ": line " ++ toString atEnd ++ ": warning: here-document at line "
      ++ toString line ++ " delimited by end-of-file (wanted \u0060" ++ delimiter ++ "')")

/-- Tells what is wrong with a script that has a title, if it is one that the shell was given. -/
def tellMisreading (title : Option String) (flaw : Misreading) : Effect Unit := do
  let s ← state
  let name := speaker s ++ ": " ++ title.elim "" (· ++ ": ")
  flaw.complaints.forM fun (line, sentence) =>
    complain (name ++ "line " ++ toString line ++ ": " ++ sentence)
  setStatus flaw.status
  noteStatus

/-- The title of what is carried out on an occasion. -/
def titleOf (occasion : Nat) : String :=
  if occasion = Trapping.atEnd then "exit trap"
  else if occasion = Trapping.beforeCommand then "debug trap"
  else if occasion = Trapping.afterFailure then "error trap"
  else if occasion = Trapping.afterFunction then "return trap"
  else "trap"

/-- The number that a document has from which on there are none. -/
def freeDocument (own : Own) : Nat := (own.documents.map (·.1)).foldl max 0 + 1

/-- The next line of a text, and what follows it. -/
def lineOf (s : State) (source : Source) : Line × Source :=
  let aliases := if s.own.has "expand_aliases" then s.aliases else []
  source.readLine (s.own.has "extglob") aliases (freeDocument s.own)

/-- The signals at which a shell does what is arranged for its end. -/
def isTerminating (signal : Nat) : Bool :=
  [1, 2, 4, 5, 6, 7, 8, 10, 11, 12, 13, 14, 15, 24, 25, 26, 31].contains signal

section
variable (launcher : Launcher)

mutual

/-- What words need; `guarded` tells that failing is taken care of. -/
def carrier : Nat → Bool → Carrier
  | 0, _ => ⟨fun _ => throw .exhausted, fun _ => throw .exhausted, fun _ _ => throw .exhausted⟩
  | fuel + 1, guarded =>
    { output := fun steps => do
        let before ← state
        collected before <| concluded fuel <|
          match fileOf? steps with
          | some redirect => showFile fuel redirect
          | none => runSteps fuel ⟨guarded, true, false, false⟩ steps
      outputOf := fun text => do
        let before ← state
        collected before <| concluded fuel <|
          runText fuel ⟨guarded, true, false, false⟩ "command substitution" before.line text
      pipe := fun isInput steps =>
        pipeTo isInput (concluded fuel (runSteps fuel ⟨guarded, true, false, false⟩ steps)) }
termination_by structural fuel => fuel

/-- Writes what is in a file. -/
def showFile : Nat → Redirect → Effect Unit
  | 0, _ => throw .exhausted
  | fuel + 1, redirect => do
    match ← Redirecting.one (carrier fuel false) fuel redirect with
    | none => setStatus 1
    | some _ =>
      match ← readInput with
      | .ok text =>
        say text
        setStatus 0
      | .error fault =>
        tell (fault.reason)
        setStatus 1

-- Occasions.
termination_by structural fuel => fuel

/-- Carries out what is arranged for an occasion. The script goes on as if nothing had been carried
    out in between, unless a function is left. -/
def occasion : Nat → Nat → Effect Unit
  | 0, _ => throw .exhausted
  | fuel + 1, number => do
    let s ← state
    match (s.arrangement? number).filter fun text => !text.isEmpty with
    | none => pure ()
    | some text =>
      if !s.own.arranged.contains number then
        let line := if number = Trapping.afterFailure then s.own.failureLine else s.line
        let isSignal := number ≤ Signal.last
        change fun s =>
          { s with
            interrupted := some s.status
            own := { s.own with arranged := number :: s.own.arranged } }
        let effect := runText fuel .plain (titleOf number) (if isSignal then 1 else line) text
        let stop ← caught (atLine line (unnamed (deeper effect)))
        change fun after =>
          { after with
            interrupted := s.interrupted
            own := { after.own with arranged := s.own.arranged, statuses := s.own.statuses } }
        match stop with
        | some (.exit _) => pure ()
        | some (.result (some _)) => pure ()
        | _ => setStatus s.status
        stop.forM throw
termination_by structural fuel => fuel

/-- Carries out what is arranged for signals that have been received, the lower ones first. -/
def attend : Nat → Effect Unit
  | 0 => throw .exhausted
  | fuel + 1 => do
    let s ← state
    match (s.received.filter s.isKept).min? with
    | none => pure ()
    | some signal =>
      take signal
      occasion fuel signal
      attend fuel
termination_by structural fuel => fuel

/-- Does what follows a command that may have failed; `wasPrepared` tells that something had been
    arranged for that before. -/
def failing : Nat → Standing → Bool → Effect Unit
  | 0, _, _ => throw .exhausted
  | fuel + 1, standing, wasPrepared => do
    let s ← state
    if s.status != 0 && !standing.guarded && !standing.negated && !standing.piped then
      if wasPrepared then occasion fuel Trapping.afterFailure
      if ← isOn "errexit" then throw (.exit s.status)
termination_by structural fuel => fuel

/-- Carries out all that a process does, and at its end what is arranged for that. An exit with
    a status then changes how the process ends. -/
def concluded : Nat → Effect Unit → Effect Unit
  | 0, _ => throw .exhausted
  | fuel + 1, effect => do
    let stop ← caught effect
    match stop with
    | some (.killed signal) => if !isTerminating signal then throw (.killed signal)
    | some .discarded => pure ()
    | stop => settle stop
    let s ← state
    match (s.arrangement? Trapping.atEnd).filter fun text => !text.isEmpty with
    | none => pure ()
    | some text =>
      change fun s =>
        { s with
          arrangements := s.arrangements.filter fun entry => entry.1 != Trapping.atEnd
          interrupted := some s.status
          runner := none
          own := { s.own with arranged := [Trapping.atEnd] } }
      goOn 1
      match ← caught (runText fuel .plain (titleOf Trapping.atEnd) 1 text) with
      | some (.exit status) => setStatus status
      | some (.result (some status)) => setStatus status
      | some (.killed signal) => throw (.killed signal)
      | some .exhausted => throw .exhausted
      | _ => setStatus s.status
    match stop with
    | some (.killed signal) => throw (.killed signal)
    | _ => pure ()

-- Steps.
termination_by structural fuel => fuel

/-- Carries out steps. -/
def runSteps : Nat → Standing → List Step → Effect Unit
  | 0, _, _ => throw .exhausted
  | _, _, [] => pure ()
  | fuel + 1, standing, step :: rest => do
    let (chain, others) := Step.splitChain rest
    if ((step :: chain).getLast?.map Step.isDetached).getD false then
      background fuel standing ((step :: chain).map (·.setDetached false))
      runSteps fuel standing others
    else
      runStep fuel (if rest.isEmpty then standing else standing.inside) (Step.startsAnew rest) step
      runSteps fuel standing rest
termination_by structural fuel => fuel

/-- Carries out a step; `alone` tells that no other step depends on it. -/
def runStep : Nat → Standing → Bool → Step → Effect Unit
  | 0, _, _, _ => throw .exhausted
  | fuel + 1, standing, alone, .mk join negated timing tasks _ => do
    let s ← state
    if s.own.has "noexec" then pure ()
    else if join.holds s.status then
      let covered := standing.guarded || !alone || (negated && s.own.has "errexit")
      let final := standing.final && !negated && timing.isNone && alone
      let effect := runPipeline fuel ⟨covered, final, negated, false⟩ tasks
      match timing with
      | none => effect
      | some isPortable =>
        effect
        Timing.tellTime isPortable ((← state).time - s.time)
      if negated then answer ((← state).status != 0)
termination_by structural fuel => fuel

/-- Carries out commands, each of which reads what the one before it writes. -/
def runPipeline : Nat → Standing → List Task → Effect Unit
  | 0, _, _ => throw .exhausted
  | _, _, [] => setStatus 0
  | fuel + 1, standing, [task] => runTask fuel standing task
  | fuel + 1, standing, tasks => do
    let before ← state
    let wasPrepared := (before.arrangement? Trapping.afterFailure).isSome
    let keepsLast := before.own.has "lastpipe"
    let apart := if keepsLast then tasks.dropLast else tasks
    let (processes, reading) ← runJoined fuel standing [] none keepsLast apart
    let lastStatus ← match reading, tasks.getLast? with
      | some channel, some task => do
        change fun s => { s.directed 0 (some channel) with held := before.held }
        let stop ← caught (runTask fuel standing.inside task)
        direct 0 (before.channelOf 0)
        sweep
        stop.forM throw
        pure [(← state).status]
      | _, _ => do
        change fun s => { s with held := before.held }
        sweep
        pure []
    let endings ← processes.mapM endOf
    receive
    let statuses := endings.map Jobs.statusOf ++ lastStatus
    let status := statuses.getLastD 0
    let worst := ((statuses.filter (· != 0)).getLast?).getD 0
    setStatus (if before.own.has "pipefail" then worst else status)
    changeOwn fun own => { own with statuses }
    if !keepsLast then
      (endings.getLast?).forM fun ending =>
        tellEnding (processes.getLastD 0)
          (fun s => Printing.ofSteps s.own.documents [.mk .always false none tasks false]) ending
    failing fuel standing wasPrepared
termination_by structural fuel => fuel

/-- Starts commands as processes, the first of which reads from a channel if one is given, and the
    others what the one before them writes; `first` leads elsewhere in the first one from the start.
    If `goesOn` there is a command behind the last one: what can be read of its output is given
    back. -/
def runJoined : Nat → Standing → List (Nat × Channel) → Option Channel → Bool → List Task →
    Effect (List Nat × Option Channel)
  | 0, _, _, _, _, _ => throw .exhausted
  | _, _, _, input, _, [] => return ([], input)
  | fuel + 1, standing, first, input, goesOn, task :: rest => do
    match task with
    | .simple line .. =>
      atLine line do
        present (.task task)
        mayFailAt line
        occasion fuel Trapping.beforeCommand
    | _ => pure ()
    let before ← state
    let process := within before false (concluded fuel (runTask fuel standing.inPipe task))
    let source := (input.map fun channel => (0, channel)).toList ++ first
    if rest.isEmpty && !goesOn then return ([← startWith source process], none)
    else
      let (reading, writing) ← newPipe
      change fun s => { s with held := reading :: input.elim s.held fun _ => s.held.drop 1 }
      let number ← startWith ((1, writing) :: source) process
      let (others, last) ← runJoined fuel standing [] (some reading) goesOn rest
      return (number :: others, last)
termination_by structural fuel => fuel

/-- Carries out steps in the background. What they have to read is nothing. -/
def background : Nat → Standing → List Step → Effect Unit
  | 0, _, _ => throw .exhausted
  | fuel + 1, standing, steps => do
    let before ← state
    let text := Printing.ofSteps before.own.documents steps
    let quiet (effect : Effect Unit) : Effect Unit := do
      change fun s => { s with ignored := 2 :: 3 :: s.ignored }
      effect
    match steps with
    | [.mk _ false none (first :: second :: more) _] =>
      let (processes, _) ←
        runJoined fuel standing [(0, .device .null)] none false (first :: second :: more)
      change fun s => { s with held := before.held }
      sweep
      Jobs.add processes text
    | [.mk _ false none [task] _] =>
      match task with
      | .simple line .. =>
        atLine line do
          present (.task task)
          mayFailAt line
          occasion fuel Trapping.beforeCommand
      | _ => pure ()
      let process ← startWith [(0, .device .null)] <| quiet <| within before false <|
        concluded fuel (runTask fuel standing.inPipe task)
      Jobs.add [process] text
    | steps =>
      let process ← startWith [(0, .device .null)] <| quiet <| within before false <|
        concluded fuel (runSteps fuel standing.asLast steps)
      Jobs.add [process] text
    setStatus 0

-- Commands.
termination_by structural fuel => fuel

/-- Carries out a command, and then what is arranged for the signals received meanwhile. -/
def runTask : Nat → Standing → Task → Effect Unit
  | 0, _, _ => throw .exhausted
  | fuel + 1, standing, task => do
    tick Duration.command
    closingPipes (runAny fuel standing task)
    attend fuel
termination_by structural fuel => fuel

/-- Carries out an effect with redirections, which are those of a command that contains others. -/
def redirected : Nat → Standing → List Redirect → Effect Unit → Effect Unit
  | 0, _, _, _ => throw .exhausted
  | fuel + 1, standing, redirects, effect => do
    let wasPrepared := ((← state).arrangement? Trapping.afterFailure).isSome
    let otherwise : Effect Unit := do
      setStatus 1
      failing fuel standing wasPrepared
    Redirecting.withAll (carrier fuel standing.guarded) fuel redirects otherwise effect
termination_by structural fuel => fuel

/-- Carries out a command of any form. -/
def runAny : Nat → Standing → Task → Effect Unit
  | 0, _, _ => throw .exhausted
  | fuel + 1, standing, task => do
    let wasPrepared := ((← state).arrangement? Trapping.afterFailure).isSome
    let own := carrier fuel standing.guarded
    let trace := Tracing.write own fuel
    match task with
    | .simple line assignments arguments redirects =>
      atLine line do
        present (.task task)
        mayFailAt line
        if !standing.piped then occasion fuel Trapping.beforeCommand
        runSimple fuel standing assignments arguments redirects
        noteStatus
        mayFailAt line
      failing fuel standing wasPrepared
    | .group body redirects =>
      redirected fuel standing redirects (runSteps fuel standing.inside body)
    | .separate line body redirects =>
      goOn line
      mayFailAt line
      present (.task task)
      let effect : Effect Unit := do
        let (_, possible) ← Redirecting.all own fuel redirects
        if !possible then throw (.exit 1)
        runSteps fuel standing.asLast body
      if standing.piped then effect
      else
        let before ← state
        let process ← start (within before false (concluded fuel effect))
        let ending ← endOf process
        receive
        setStatus (Jobs.statusOf ending)
        tellEnding process (fun s => Printing.ofTask s.own.documents task) ending
      noteStatus
      failing fuel standing wasPrepared
    | .branch cases otherwise redirects =>
      redirected fuel standing redirects (runBranches fuel standing.inside cases otherwise)
    | .loop untilPassed condition body redirects =>
      redirected fuel standing redirects
        (runLoop fuel standing.inside untilPassed condition body 0)
    | .each line name items body redirects =>
      redirected fuel standing redirects do
        if ← isLoopName name then
          atLine line do
            let shown := "for " ++ name ++ " in " ++ shownItems items
            let items ← match items with
              | some words => Expansion.fields own fuel words
              | none => do pure (← state).arguments
            setStatus 0
            runEach fuel standing.inside line shown name body items
    | .count line start condition next raw body redirects =>
      redirected fuel standing redirects do
        atLine line do
          match ← countingPart fuel line start raw.1 with
          | none => setStatus 1
          | some _ => runCounting fuel standing.inside line (condition, raw.2.1) (next, raw.2.2) body 0
    | .choose line name items body redirects =>
      redirected fuel standing redirects do
        if ← isLoopName name then
          atLine line do
            let shown := "select " ++ name ++ " in " ++ shownItems items
            present (.part shown)
            trace shown
            occasion fuel Trapping.beforeCommand
            let items ← match items with
              | some words => Expansion.fields own fuel words
              | none => do pure (← state).arguments
            setStatus 0
            if !items.isEmpty then runChoosing fuel standing.inside name body items true
    | .select line subject clauses redirects =>
      redirected fuel standing redirects do
        atLine line do
          let shown := "case " ++ subject.raw ++ " in "
          present (.part shown)
          trace ("case " ++ subject.raw ++ " in")
          occasion fuel Trapping.beforeCommand
          let text ← Expansion.single own fuel subject
          setStatus 0
          runClauses fuel standing.inside text clauses
    | .define line name body => define line name body
    | .question line question redirects =>
      atLine line do
        present (.part ("[[ " ++ Printing.questionText question ++ " ]]"))
        redirected fuel standing redirects do
          mayFailAt line
          occasion fuel Trapping.beforeCommand
          let ask : Effect Unit := do
            answer (← Asking.answerTo own (fun text => trace ("[[ " ++ text ++ " ]]")) fuel question)
          match ← caught ask with
          | some .failed => pure ()
          | stop => stop.forM throw
          noteStatus
          failing fuel standing wasPrepared
    | .calculate line raw expression redirects =>
      atLine line do
        present (.part ("((" ++ raw ++ "))"))
        redirected fuel standing redirects do
          mayFailAt line
          occasion fuel Trapping.beforeCommand
          let text ← Expansion.text own fuel expression
          trace ("(( " ++ text ++ " ))")
          match ← calculated "((" text with
          | some n => answer (n != 0)
          | none => setStatus 1
          noteStatus
          failing fuel standing wasPrepared
    | .beside line name body =>
      atLine line do
        let before ← state
        let (reading, output) ← newPipe
        let (input, writing) ← newPipe
        let process ← startWith [(0, input), (1, output)] <| within before false <|
          concluded fuel (runTask fuel standing.inPipe body)
        let first := freePipe before
        let second := first - 3
        direct first (some reading)
        direct second (some writing)
        sweep
        Setting.putTexts name [toString first, toString second]
        let _ ← Setting.give (name ++ "_PID") (toString process)
        Jobs.add [process] (Printing.ofTask before.own.documents task)
        setStatus 0
termination_by structural fuel => fuel

/-- Carries out what belongs to the first condition that passes. -/
def runBranches : Nat → Standing → List (List Step × List Step) → Option (List Step) → Effect Unit
  | 0, _, _, _ => throw .exhausted
  | _, _, [], none => setStatus 0
  | fuel + 1, standing, [], some steps => runSteps fuel standing steps
  | fuel + 1, standing, (condition, body) :: rest, otherwise => do
    runSteps fuel .tried condition
    if (← state).status == 0 then runSteps fuel standing body
    else runBranches fuel standing rest otherwise
termination_by structural fuel => fuel

/-- Repeats a body; `last` is how its last round went. -/
def runLoop : Nat → Standing → Bool → List Step → List Step → Nat → Effect Unit
  | 0, _, _, _, _, _ => throw .exhausted
  | fuel + 1, standing, untilPassed, condition, body, last => do
    match ← caught (inLoop (runSteps fuel .tried condition)) with
    | none =>
      if ((← state).status == 0) == untilPassed then setStatus last
      else
        let stop ← caught (inLoop (runSteps fuel standing body))
        afterRound stop do
          runLoop fuel standing untilPassed condition body (← state).status
    | stop => afterRound stop (runLoop fuel standing untilPassed condition body last)
termination_by structural fuel => fuel

/-- Repeats a body for every item. -/
def runEach : Nat → Standing → Nat → String → String → List Step → List String → Effect Unit
  | 0, _, _, _, _, _, _ => throw .exhausted
  | _, _, _, _, _, _, [] => pure ()
  | fuel + 1, standing, line, shown, name, body, item :: rest => do
    goOn line
    present (.part shown)
    Tracing.write (carrier fuel standing.guarded) fuel shown
    occasion fuel Trapping.beforeCommand
    if ← giveItem name item then
      let stop ← caught (inLoop (runSteps fuel standing body))
      afterRound stop (runEach fuel standing line shown name body rest)
    else setStatus 1
termination_by structural fuel => fuel

/-- The value of a part of the head of a loop that counts. -/
def countingPart : Nat → Nat → List Fragment → String → Effect (Option Int)
  | 0, _, _, _ => throw .exhausted
  | fuel + 1, line, expression, raw => do
    let own := carrier fuel false
    let text ← Expansion.text own fuel expression
    let shown := if raw.trimAscii.isEmpty then "1" else text
    Tracing.write own fuel ("(( " ++ shown ++ " ))")
    goOn line
    present (.part ("((" ++ raw ++ "))"))
    occasion fuel Trapping.beforeCommand
    calculated "((" shown
termination_by structural fuel => fuel

/-- Repeats a body as long as a condition is not zero; `last` is how its last round went. -/
def runCounting : Nat → Standing → Nat → List Fragment × String → List Fragment × String →
    List Step → Nat → Effect Unit
  | 0, _, _, _, _, _, _ => throw .exhausted
  | fuel + 1, standing, line, condition, next, body, last => do
    match ← countingPart fuel line condition.1 condition.2 with
    | none => setStatus 1
    | some 0 => setStatus last
    | some _ =>
      let stop ← caught (inLoop (runSteps fuel standing body))
      afterRound stop do
        let status := (← state).status
        match ← countingPart fuel line next.1 next.2 with
        | none => setStatus 1
        | some _ => runCounting fuel standing line condition next body status
termination_by structural fuel => fuel

/-- Repeats a body for every item that is chosen; the items are shown first if `isShown`. -/
def runChoosing : Nat → Standing → String → List Step → List String → Bool → Effect Unit
  | 0, _, _, _, _, _ => throw .exhausted
  | fuel + 1, standing, name, body, items, isShown => do
    match ← Choosing.ask items fuel isShown with
    | none => setStatus 1
    | some item =>
      if ← giveItem name item then
        let stop ← caught (inLoop (runSteps fuel standing body))
        afterRound stop do
          let isEmpty := (Store.textOf? (← state) "REPLY") == some ""
          runChoosing fuel standing name body items isEmpty
      else setStatus 1
termination_by structural fuel => fuel

/-- Carries out the first clause with a pattern that matches, and those that it goes on to. -/
def runClauses : Nat → Standing → String → List Clause → Effect Unit
  | 0, _, _, _ => throw .exhausted
  | _, _, _, [] => pure ()
  | fuel + 1, standing, text, .mk patterns body ends :: rest => do
    let own := carrier fuel standing.guarded
    if ← matchesAny fuel own text patterns then
      if body.isEmpty then setStatus 0
      runSteps fuel standing body
      match ends with
      | .stop => pure ()
      | .goOn => runOn fuel standing text rest
      | .tryOn => runClauses fuel standing text rest
    else runClauses fuel standing text rest
termination_by structural fuel => fuel

/-- Carries out the next clause whatever its patterns are. -/
def runOn : Nat → Standing → String → List Clause → Effect Unit
  | 0, _, _, _ => throw .exhausted
  | _, _, _, [] => pure ()
  | fuel + 1, standing, text, .mk _ body ends :: rest => do
    runSteps fuel standing body
    match ends with
    | .stop => pure ()
    | .goOn => runOn fuel standing text rest
    | .tryOn => runClauses fuel standing text rest
termination_by structural fuel => fuel

/-- Whether a text matches one of some patterns. -/
def matchesAny : Nat → Carrier → String → List Word → Effect Bool
  | 0, _, _, _ => throw .exhausted
  | _, _, _, [] => return false
  | fuel + 1, own, text, word :: rest => do
    let pieces ← Expansion.pattern own fuel word.fragments
    if Piece.isMatch ((← state).own.has "nocasematch") pieces text then return true
    matchesAny fuel own text rest
termination_by structural fuel => fuel

/-- Carries out a command that is made up of words. -/
def runSimple : Nat → Standing → List Assignment → List Argument → List Redirect → Effect Unit
  | 0, _, _, _, _ => throw .exhausted
  | fuel + 1, standing, assignments, arguments, redirects => do
    change fun s => { s with inner := none }
    let own := carrier fuel standing.guarded
    let trace := Tracing.write own fuel
    let operands ← operandsOf own fuel arguments
    match operands with
    | [] =>
      assignments.forM (Expansion.assign own trace fuel)
      changeOwn fun own => { own with lastArgument := "" }
      let otherwise : Effect Unit := change fun s => { s with inner := some 1 }
      Redirecting.withAll own fuel redirects otherwise (pure ())
      setStatus ((← state).inner.getD 0)
    | first :: rest =>
      let words := operands.map Operand.shown
      if !assignments.isEmpty then
        change fun s => Store.withScopes s fun scopes => ⟨[], false, none⟩ :: scopes
        assignments.forM (pass own fuel)
      traceLists trace operands
      Tracing.writeWords own fuel words
      let stop ← caught (runCommand fuel standing .anywhere first.shown rest redirects)
      if !assignments.isEmpty && !stop.any Stop.isFinal then
        let makesOwn := first.shown = "export" || first.shown = "readonly"
        takeBack (if makesOwn then rest.map fun operand => operand.wish.name else [])
      changeOwn fun own => { own with lastArgument := words.getLastD "" }
      stop.forM throw
termination_by structural fuel => fuel

/-- Carries out what the first word of a command names: a function, a command of the shell, or a
    program. -/
def runCommand : Nat → Standing → Sought → String → List Operand → List Redirect → Effect Unit
  | 0, _, _, _, _, _ => throw .exhausted
  | fuel + 1, standing, sought, name, operands, redirects => do
    let s ← state
    let own := carrier fuel standing.guarded
    let arguments := operands.map Operand.shown
    match (Lookup.function? s name).filter fun _ => sought.functions with
    | some f =>
      Redirecting.withAll own fuel redirects (setStatus 1)
        (callFunction fuel standing name f arguments)
    | none =>
      if !Lookup.isBuiltin s name then runProgram fuel standing sought name arguments redirects
      else if name = "exec" then asBuiltin name (runExec fuel arguments redirects)
      else
        Redirecting.withAll own fuel redirects (setStatus 1)
          (asBuiltin name (runBuiltin fuel standing name operands))
termination_by structural fuel => fuel

/-- Carries out a command of the shell. -/
def runBuiltin : Nat → Standing → String → List Operand → Effect Unit
  | 0, _, _, _ => throw .exhausted
  | fuel + 1, standing, name, operands => do
    let s ← state
    let own := carrier fuel standing.guarded
    let arguments := operands.map Operand.shown
    match name with
    | "eval" =>
      let (_, words) ← options "" "" arguments
      unnamed (deeper (runText fuel standing.inside "eval" s.line (" ".intercalate words)))
    | "." => runFile fuel standing arguments
    | "source" => runFile fuel standing arguments
    | "command" =>
      let (options, words) ← options "pVv" "" arguments
      let isAsked (letter : Char) : Bool := options.any (·.1 == letter)
      let places := if isAsked 'p' then some Sought.standardPlaces else none
      match words with
      | [] => answer true
      | wanted :: rest =>
        if isAsked 'v' || isAsked 'V' then Lookup.describe (isAsked 'V') places words
        else
          let operands := operands.drop (operands.length - rest.length)
          unnamed (runCommand fuel standing.inside ⟨false, places⟩ wanted operands [])
    | "builtin" =>
      let (_, words) ← options "" "" arguments
      match words with
      | [] => answer true
      | wanted :: rest =>
        let operands := operands.drop (operands.length - rest.length)
        if !Lookup.builtins.contains wanted then fail (wanted ++ ": not a shell builtin")
        else if wanted = "exec" then asBuiltin wanted (runExec fuel rest [])
        else unnamed (asBuiltin wanted (runBuiltin fuel standing wanted operands))
    | "mapfile" => Reading.mapfile (fun text => callBack fuel standing text) arguments
    | "readarray" => Reading.mapfile (fun text => callBack fuel standing text) arguments
    | name =>
      match Builtin.declaring? own (Tracing.write own fuel) fuel name operands with
      | some effect => effect
      | none => (Builtin.find? name arguments).getD (answer true)
termination_by structural fuel => fuel

/-- Carries out a text for a command of the shell. -/
def callBack : Nat → Standing → String → Effect Unit
  | 0, _, _ => throw .exhausted
  | fuel + 1, standing, text => do
    unnamed (deeper (runText fuel standing.inside "readarray" (← state).line text))
termination_by structural fuel => fuel

/-- Carries out a function. -/
def callFunction : Nat → Standing → String → Function → List String → Effect Unit
  | 0, _, _, _, _ => throw .exhausted
  | fuel + 1, standing, name, f, arguments => do
    let before ← state
    let depth := (before.own.calls.filter Call.isFunction).length
    let most := ((Store.textOf? before "FUNCNEST").bind String.toNat?).getD 0
    if 0 < most && most ≤ depth then
      tell (name ++ ": maximum function nesting level exceeded (" ++ toString most ++ ")")
      discard
    let hidden := hidden before false
    let call : Call := ⟨name, f.source, before.line, true, arguments⟩
    change fun s =>
      { s with
        arguments
        loops := 0
        line := f.line
        arrangements := s.arrangements.filter fun entry => !hidden.contains entry
        own :=
          { s.own with
            scopes := ⟨[], true, none⟩ :: s.own.scopes
            calls := call :: s.own.calls } }
    occasion fuel Trapping.beforeCommand
    let stop ← caught (unnamed (runTask fuel standing.inside f.body))
    if stop.any Stop.isFinal then stop.forM throw
    match stop with
    | some (.result status) => do
      status.forM setStatus
      occasion fuel Trapping.afterFunction
    | none => occasion fuel Trapping.afterFunction
    | _ => pure ()
    leaveFunction before
    bringBack hidden
    match stop with
    | some (.result _) => pure ()
    | stop => stop.forM throw
termination_by structural fuel => fuel

/-- Carries out a file as a part of the script. -/
def runFile : Nat → Standing → List String → Effect Unit
  | 0, _, _ => throw .exhausted
  | fuel + 1, standing, arguments => do
    let (_, words) ← options "" "" arguments
    match words with
    | [] =>
      object "filename argument required"
      refuseUsage
    | file :: rest =>
      let before ← state
      let p := scriptPath before file
      match ← scriptText before p with
      | .error .isADirectory => fail (file ++ ": is a directory")
      | .error fault =>
        tell (ofText p.spelling ++ ": " ++ fault.reason)
        failWith 1
      | .ok text =>
        if Programs.isBinary (toBytes text) then
          fail (file ++ ": cannot execute binary file")
        let hidden := hidden before true
        let call : Call := ⟨"source", ofText p.spelling, before.line, false, rest⟩
        change fun s =>
          { s with
            arguments := if rest.isEmpty then s.arguments else rest
            arrangements := s.arrangements.filter fun entry => !hidden.contains entry
            own := { s.own with calls := call :: s.own.calls } }
        let stop ← caught do
          unnamed (deeper (runLines fuel standing.inside none false (.ofText text 1)))
        if stop.any Stop.isFinal then stop.forM throw
        match stop with
        | some (.result status) => status.forM setStatus
        | _ => pure ()
        goOn before.line
        match stop with
        | none => occasion fuel Trapping.afterFunction
        | some (.result _) => occasion fuel Trapping.afterFunction
        | _ => pure ()
        change fun s =>
          let isRenewed := before.own.renewals < s.own.renewals
          { s with
            arguments :=
              if rest.isEmpty || isRenewed then s.arguments else before.arguments
            own :=
              { s.own with
                calls := before.own.calls
                failureLine := before.own.failureLine } }
        bringBack hidden
        match stop with
        | some (.result _) => pure ()
        | stop => stop.forM throw
termination_by structural fuel => fuel

/-- Lets a program take the place of the shell, or lets descriptors lead elsewhere from now on. -/
def runExec : Nat → List String → List Redirect → Effect Unit
  | 0, _, _ => throw .exhausted
  | fuel + 1, arguments, redirects => do
    let (options, words) ← options "cl" "a" arguments
    let isAsked (letter : Char) : Bool := options.any (·.1 == letter)
    let before ← state
    let (numbers, possible) ← Redirecting.all (carrier fuel false) fuel redirects
    if !possible then
      Redirecting.undo before numbers
      setStatus 1
    else
      match words with
      | [] => setStatus 0
      | wanted :: rest =>
        let s ← state
        match ← Programs.search true (Lookup.places s) wanted with
        | none =>
          object (wanted ++ ": not found")
          throw (.exit 127)
        | some path =>
          let absolute := Directory.joined s.directory path
          let name := ((options.filter (·.1 == 'a')).getLast?.map (·.2)).getD wanted
          let shown := if isAsked 'l' then "-" ++ name else name
          lowerLevel
          if isAsked 'c' then
            changeOwn fun own => { own with scopes := [⟨[], false, none⟩], functions := [] }
          let stop ← caught (unnamed (Programs.execute launcher absolute shown rest))
          let isProgram := isProgram s.world ⟨toText absolute⟩
          match stop with
          | some (.exit 126) =>
            if !isProgram then
              object (absolute ++ ": cannot execute: " ++ (Fault.permissionDenied).reason)
          | _ => pure ()
          stop.forM throw
termination_by structural fuel => fuel

/-- Runs a program, in place of the shell if there is nothing to be done after it. -/
def runProgram : Nat → Standing → Sought → String → List String → List Redirect → Effect Unit
  | 0, _, _, _, _, _ => throw .exhausted
  | fuel + 1, standing, sought, name, arguments, redirects => do
    let s ← state
    let isUsual := sought.places.isNone
      && !((s.own.scopes.head?.map fun scope =>
        !scope.isOfFunction && (scope.find? "PATH").isSome).getD false && 1 < s.own.scopes.length)
    let path ← Programs.search isUsual (sought.places.getD (Lookup.places s)) name
    let effect : Effect Unit := do
      let (_, possible) ← Redirecting.all (carrier fuel standing.guarded) fuel redirects
      if !possible then throw (.exit 1)
      match path with
      | some path => Programs.execute launcher path name arguments
      | none =>
        match Lookup.function? (← state) "command_not_found_handle" with
        | some f =>
          callFunction fuel standing.inside "command_not_found_handle" f (name :: arguments)
          throw (.exit (← state).status)
        | none =>
          tell (name ++ ": command not found")
          throw (.exit 127)
    if standing.final && !s.isPrepared && (s.arrangement? Trapping.atEnd).isNone then
      lowerLevel
      effect
    else
      let process ← start effect
      let ending ← endOf process
      receive
      setStatus (Jobs.statusOf ending)
      let text (s : State) : String := Store.presentText s.own
      tellEnding process text ending

-- Texts.
termination_by structural fuel => fuel

/-- Carries out a text with a title, whose first line has a number. -/
def runText : Nat → Standing → String → Nat → String → Effect Unit
  | 0, _, _, _, _ => throw .exhausted
  | fuel + 1, standing, title, line, text =>
    runLines fuel standing (some title) false (.ofText text line)
termination_by structural fuel => fuel

/-- Carries out a line that has been read, and tells whether the text goes on. A line that cannot be
    gone on with is dropped. -/
def runLine : Nat → Standing → Option String → Line → Nat → Effect Bool
  | 0, _, _, _, _ => throw .exhausted
  | fuel + 1, standing, title, line, next => do
    if ← isOn "verbose" then
      let _ ← writeTo ((← state).channelOf 2) (String.ofList line.source)
    changeOwn fun own => { own with documents := line.documents ++ own.documents }
    goOn (if line.source.getLast? == some '\n' then next - 1 else next)
    warnOfDocuments line.unended
    match ← caught (runSteps fuel standing line.steps) with
    | some .discarded =>
      let s ← state
      if title.isSome || s.status = 0 then setStatus 1
      noteStatus
      if 0 < s.own.level then throw (.exit (← state).status)
    | stop => stop.forM throw
    match line.flaw with
    | some flaw =>
      tellMisreading title flaw
      return false
    | none => return true
termination_by structural fuel => fuel

/-- Carries out what is left of a text line by line; `isBusy` tells whether anything of it has been
    carried out. What stands on a line can change how the next one is read. -/
def runLines : Nat → Standing → Option String → Bool → Source → Effect Unit
  | 0, _, _, _, _ => throw .exhausted
  | fuel + 1, standing, title, isBusy, source => do
    let (line, after) := lineOf (← state) source
    let isLast := line.flaw.isNone && after.text.isEmpty
    let isBusy := isBusy || !line.steps.isEmpty
    let standing := if isLast then standing else standing.inside
    if ← runLine fuel standing title line after.line then
      if !isLast then runLines fuel standing title isBusy after
      else if !isBusy then setStatus 0
termination_by structural fuel => fuel

end

end

end Run
end Extended
end Shell
end SuiteCoverage
