import SuiteCoverage.Shell.Meaning
import SuiteCoverage.Shell.Native
import SuiteCoverage.Shell.Parameter
import SuiteCoverage.Shell.Redirection
import SuiteCoverage.Shell.Process
import SuiteCoverage.Shell.Utility

/-!
# Running scripts

Words are expanded, commands are carried out, and programs that commands name are run in a state
of their own: they share the disk and the streams with the script that runs them and nothing
else. Every step of a script uses up some of what it was granted; a script that is granted too
little stops as exhausted, which is told apart from every way in which it can end by itself.
-/

set_option autoImplicit false

namespace SuiteCoverage
namespace Shell
namespace Run

open Effect Redirection

/-- How a command stands in its script. -/
structure Standing where
  /-- Whether failing is taken care of. -/
  guarded : Bool
  /-- Whether the process has nothing more to do after it. A program can then take the place of
      the script. -/
  final : Bool

namespace Standing

/-- A command that stands for itself. -/
def plain : Standing := ⟨false, false⟩

/-- A command whose failing is taken care of. -/
def tried : Standing := ⟨true, false⟩

/-- The same, with more to do after it. -/
def inside (standing : Standing) : Standing := { standing with final := false }

/-- The same, with nothing to do after it. -/
def asLast (standing : Standing) : Standing := { standing with final := true }

/-- How a command stands that is part of one with redirections. They have to be undone after
    it. -/
def within (standing : Standing) (redirects : List Redirect) : Standing :=
  if redirects.isEmpty then standing else standing.inside

/-- What becomes of a command whose redirections are not possible. -/
def refused (standing : Standing) : Effect Unit := do
  setStatus misuse
  if isSet (← state) 'e' && !standing.guarded then throw (.exit misuse)

end Standing

/-- Carries out a command of the shell that may write something. If that could not be done it has
    failed. -/
def written (name : String) (effect : Effect Unit) : Effect Unit := do
  let stop ← caught effect
  let s ← state
  change fun s => { s with shortfall := none }
  stop.forM throw
  if s.shortfall.isSome then
    protest (name ++ ": I/O error")
    setStatus (s.status ||| 1)

/-- Carries out a command of the shell. An error in it ends the script if the command is `special`;
    else it is taken care of. -/
def asBuiltin (special : Bool) (name : String) (effect : Effect Unit) : Effect Unit := do
  match ← caught (inNameOf name (written name effect)) with
  | some .failed => if special then throw .failed else setStatus misuse
  | stop => stop.forM throw

/-- Gives values to the variables that a shell has from its start. -/
def startVariables : Effect Unit := do
  change fun s => { s with values := s.values.filter fun entry => isName entry.1 }
  put "IFS" Field.usualDividers
  put "OPTIND" "1"
  let usual := [("PATH", Sought.standardPlaces), ("PS1", "$ "), ("PS2", "> "), ("PS4", "+ ")]
  usual.forM fun (name, value) => do
    if (valueOf (← state) name).isNone then put name value

/-- The first word of a command if it is a name without quotes. -/
def plainName? : Task → Option String
  | .simple _ _ ([.text name false] :: _) _ => if isName name then some name else none
  | _ => none

/-- How deep functions can be in functions. -/
def deepest : Nat := 1000

/-- Shows a command before it is carried out, if that is asked for. -/
def trace (errors : Option Channel) (assignments : List (String × String)) (words : List String) :
    Effect Unit := do
  let s ← state
  if isSet s 'x' then
    let settings := assignments.map fun entry => entry.1 ++ "=" ++ entry.2
    let start := (valueOf s "PS4").getD "+ "
    let _ ← writeTo errors (start ++ " ".intercalate (settings ++ words) ++ "\n")

/-- A word with the directory of a user in place of a tilde at its start. -/
def atHome (word : Word) : Effect Word := do
  return Home.inWord (Parameter.directoryOf (← state)) word

mutual

/-- The cells that a word stands for. -/
def expand : Nat → Word → Effect (List Cell)
  | 0, _ => throw .exhausted
  | fuel + 1, word => do
    return (← word.mapM (expandFragment fuel)).flatten

/-- The text that a word stands for. -/
def expandText : Nat → Word → Effect String
  | 0, _ => throw .exhausted
  | fuel + 1, word => do
    let cells ← expand fuel word
    return Cell.textWith (Parameter.divider (← state)) cells

/-- The cells that a part of a word stands for. -/
def expandFragment : Nat → Fragment → Effect (List Cell)
  | 0, _ => throw .exhausted
  | fuel + 1, fragment => do
    match fragment with
    | .text text quoted => return Cell.ofScript text quoted
    | .size name quoted =>
      let value ← Parameter.expected (if name == "@" then "*" else name)
      return Cell.ofValue (toString value.length) quoted
    | .output steps quoted =>
      let before := (← state).status
      let (text, ending) ← collect (concluded fuel (runSteps fuel ⟨false, true⟩ steps))
      await ending
      change fun s => { s with status := before, inner := some s.status }
      return Cell.ofValue (substituted text) quoted
    | .arithmetic expression quoted =>
      let text ← expandText fuel expression
      let s ← state
      match Arithmetic.evaluate (fun name => (Parameter.value? s name).getD "") text with
      | .ok (n, changes) =>
        changes.forM fun entry => assign entry.1 entry.2
        return Cell.ofValue (toString n) quoted
      | .error flaw => giveUp (flaw.complaint text)
    | .parameter _ .unknown _ => giveUp "Bad substitution"
    | .parameter name .plain quoted =>
      let _ ← Parameter.expected name
      return Parameter.cells (← state) name quoted
    | .parameter name (.trim atEnd longest pattern) quoted =>
      let tokens := Field.tokens (← expand fuel (← atHome pattern))
      let value := (← Parameter.expected name).toList
      let trim := if atEnd then Field.trimEnd else Field.trimFront
      return Cell.ofValue (String.ofList (trim tokens longest value)) quoted
    | .parameter name (.substitute kind orEmpty word) quoted =>
      let value := Parameter.value? (← state) name
      let missing := match value with
        | none => true
        | some text => orEmpty && text.isEmpty
      match kind with
      | .use =>
        let cells ← if missing then pure (Parameter.asValue (← expand fuel (← atHome word)))
          else pure (Parameter.cells (← state) name quoted)
        return Cell.ofValue "" quoted ++ cells
      | .alternative =>
        if missing then return Cell.ofValue "" quoted
        else return Cell.ofValue "" quoted ++ Parameter.asValue (← expand fuel (← atHome word))
      | .assign =>
        if missing then assign name (← expandText fuel (← atHome word))
        return Cell.ofValue "" quoted ++ Parameter.cells (← state) name quoted
      | .demand =>
        if missing then
          let text ← expandText fuel (← atHome word)
          let usual := if orEmpty then "parameter not set or null" else "parameter not set"
          giveUp (name ++ ": " ++ (if word.isEmpty then usual else text))
        return Cell.ofValue "" quoted ++ Parameter.cells (← state) name quoted

/-- The fields that words stand for, found out word by word. -/
def fields : Nat → List Word → Effect (List String)
  | 0, _ => throw .exhausted
  | fuel + 1, words => do
    let groups ← words.mapM fun word => do
      let cells ← expand fuel (← atHome word)
      let s ← state
      let found := Field.split (Parameter.dividers s) .none cells
      return if isSet s 'f' then found.map Cell.text else found.flatMap (Field.paths s.world)
    return groups.flatten

/-- The fields of a command, of which some have been found so far. -/
def commandFields : Nat → List String → List Word → Effect (List String)
  | 0, _, _ => throw .exhausted
  | _, found, [] => return found
  | fuel + 1, found, word :: rest => do
    let s ← state
    let more ← if Builtin.isDeclaring s found && Home.isAssignment word then do
        pure [← expandText fuel (Home.inAssignment (Parameter.directoryOf s) word)]
      else fields fuel [word]
    commandFields fuel (found ++ more) rest

/-- Carries out redirections, and tells whether that was possible. -/
def redirect : Nat → List Redirect → Effect Bool
  | 0, _ => throw .exhausted
  | _, [] => return true
  | fuel + 1, .document descriptor number :: rest => do
    let word := ((← state).documents.find? fun entry => entry.1 == number).map (·.2)
    let text ← expandText fuel (word.getD [])
    directToText descriptor text
    redirect fuel rest
  | fuel + 1, .to descriptor direction target :: rest => do
    let target ← expandText fuel (← atHome target)
    let possible ← match direction with
      | .duplicate => duplicate descriptor target
      | direction => openFile descriptor direction target
    if possible then redirect fuel rest else return false

/-- Carries out an effect with redirections, or something else if they are not possible. -/
def redirected : Nat → Effect Unit → List Redirect → Effect Unit → Effect Unit
  | 0, _, _, _ => throw .exhausted
  | fuel + 1, otherwise, redirects, effect => do
    let before ← state
    -- What the descriptors led to stays open meanwhile.
    if !redirects.isEmpty then change fun s => { s with held := before.channels }
    let possible ← redirect fuel redirects
    let stop ← if possible then caught effect else pure none
    change fun s => { s with held := before.held }
    redirects.forM (undo before)
    if !redirects.isEmpty then sweep
    stop.forM throw
    if !possible then otherwise

/-- Carries out steps. -/
def runSteps : Nat → Standing → List Step → Effect Unit
  | 0, _, _ => throw .exhausted
  | _, _, [] => pure ()
  | fuel + 1, standing, step :: rest => do
    let (chain, others) := Step.splitChain rest
    if ((step :: chain).getLast?.map Step.isDetached).getD false then
      let steps := (step :: chain).map (·.setDetached false)
      detach (concluded fuel (runSteps fuel ⟨false, true⟩ steps))
      runSteps fuel standing others
    else
      runStep fuel (if rest.isEmpty then standing else standing.inside) (Step.startsAnew rest) step
      runSteps fuel standing rest

/-- Carries out a step; `alone` tells that no other step depends on it. -/
def runStep : Nat → Standing → Bool → Step → Effect Unit
  | 0, _, _, _ => throw .exhausted
  | fuel + 1, standing, alone, .mk join negated tasks _ => do
    if isSet (← state) 'n' then setStatus 0
    else if join.holds (← state).status then
      let covered := standing.guarded || negated || !alone
      runPipeline fuel ⟨covered, standing.final && !negated⟩ tasks
      let s ← state
      if negated then Builtin.answer (s.status != 0)
      else if isSet s 'e' && !covered && canFail tasks && s.status != 0 then
        throw (.exit s.status)

/-- Carries out commands, each of which reads what the one before it writes. -/
def runPipeline : Nat → Standing → List Task → Effect Unit
  | 0, _, _ => throw .exhausted
  | _, _, [] => pure ()
  | fuel + 1, standing, [task] => runTask fuel standing task
  | fuel + 1, standing, tasks => do
    tasks.forM fun task => change fun s => (plainName? task).elim s (Meaning.track s)
    let before := (← state).held
    let processes ← runJoined fuel standing.asLast none tasks
    change fun s => { s with held := before }
    sweep
    let endings ← processes.mapM endOf
    receive
    endings.forM note

/-- Starts commands as processes, the first of which reads from a channel if one is given, and the
    others what the one before them writes. -/
def runJoined : Nat → Standing → Option Channel → List Task → Effect (List Nat)
  | 0, _, _, _ => throw .exhausted
  | _, _, _, [] => return []
  | fuel + 1, standing, input, task :: rest => do
    let process := concluded fuel (runTask fuel standing task)
    let source := (input.map fun channel => (0, channel)).toList
    if rest.isEmpty then return [← startWith source process]
    else
      let (reading, writing) ← newPipe
      change fun s => { s with held := reading :: input.elim s.held fun _ => s.held.drop 1 }
      let first ← startWith ((1, writing) :: source) process
      return first :: (← runJoined fuel standing (some reading) rest)

/-- Carries out a command, and then what is arranged for the signals received meanwhile. -/
def runTask : Nat → Standing → Task → Effect Unit
  | 0, _, _ => throw .exhausted
  | fuel + 1, standing, task => do
    tick Duration.command
    runAny fuel standing task
    attend fuel

/-- Carries out what is arranged for signals that have been received, the lower ones first. The
    script goes on as if nothing had been carried out in between, unless a function is left. -/
def attend : Nat → Effect Unit
  | 0 => throw .exhausted
  | fuel + 1 => do
    let s ← state
    match (s.received.filter s.isKept).min? with
    | none => pure ()
    | some signal =>
      take signal
      change fun s => { s with interrupted := some s.status }
      let stop ← caught (runText fuel .plain ((s.arrangement? signal).getD ""))
      change fun after => { after with interrupted := s.interrupted }
      match stop with
      | some (.result (some _)) => pure ()
      | _ => setStatus s.status
      stop.forM throw
      attend fuel

/-- Carries out a command of any form. -/
def runAny : Nat → Standing → Task → Effect Unit
  | 0, _, _ => throw .exhausted
  | fuel + 1, standing, task =>
    match task with
    | .simple line assignments words redirects => do
      goOn line
      runSimple fuel standing assignments words redirects
    | .group line body redirects => do
      if !redirects.isEmpty then goOn line
      redirected fuel standing.refused redirects (runSteps fuel (standing.within redirects) body)
    | .separate line body redirects => do
      goOn line
      let inside : Effect Unit := do
        if ← redirect fuel redirects then runSteps fuel standing.asLast body
        else throw .failed
      if standing.final && !(← state).isPrepared then inside
      else await (← apart (concluded fuel inside))
    | .branch line cases otherwise redirects => do
      if !redirects.isEmpty then goOn line
      redirected fuel standing.refused redirects
        (runBranches fuel (standing.within redirects) cases otherwise)
    | .loop line untilPassed condition body redirects => do
      if !redirects.isEmpty then goOn line
      redirected fuel standing.refused redirects
        (runLoop fuel standing.inside untilPassed condition body 0)
    | .each line name items body redirects => do
      goOn line
      redirected fuel standing.refused redirects do
        let items ← match items with
          | some words => fields fuel words
          | none => do pure (← state).arguments
        if items.isEmpty then setStatus 0
        runEach fuel standing.inside name body items
    | .select line subject clauses redirects => do
      goOn line
      redirected fuel standing.refused redirects do
        let text ← expandText fuel (← atHome subject)
        runClauses fuel (standing.within redirects) text clauses
    | .define name body => do
      change fun s =>
        { s with functions := (name, body) :: s.functions.filter fun entry => entry.1 != name }
      setStatus 0

/-- Carries out what belongs to the first condition that passes. -/
def runBranches : Nat → Standing → List (List Step × List Step) → List Step → Effect Unit
  | 0, _, _, _ => throw .exhausted
  | fuel + 1, standing, [], otherwise => do
    if otherwise.isEmpty then setStatus 0
    runSteps fuel standing otherwise
  | fuel + 1, standing, (condition, body) :: rest, otherwise => do
    runSteps fuel .tried condition
    if (← state).status == 0 then runSteps fuel standing body
    else runBranches fuel standing rest otherwise

/-- Repeats a body; `last` is how its last round went. -/
def runLoop : Nat → Standing → Bool → List Step → List Step → Nat → Effect Unit
  | 0, _, _, _, _, _ => throw .exhausted
  | fuel + 1, standing, untilPassed, condition, body, last => do
    runSteps fuel .tried condition
    if ((← state).status == 0) == untilPassed then setStatus last
    else
      match ← caught (inLoop (runSteps fuel standing body)) with
      | none => runLoop fuel standing untilPassed condition body (← state).status
      | some (.leave 0) => setStatus 0
      | some (.leave (n + 1)) => throw (.leave n)
      | some (.again 0) => runLoop fuel standing untilPassed condition body 0
      | some (.again (n + 1)) => throw (.again n)
      | some stop => throw stop

/-- Repeats a body for every item. -/
def runEach : Nat → Standing → String → List Step → List String → Effect Unit
  | 0, _, _, _, _ => throw .exhausted
  | _, _, _, _, [] => pure ()
  | fuel + 1, standing, name, body, item :: rest => do
    assign name item
    match ← caught (inLoop (runSteps fuel standing body)) with
    | none => runEach fuel standing name body rest
    | some (.leave 0) => setStatus 0
    | some (.leave (n + 1)) => throw (.leave n)
    | some (.again 0) =>
      setStatus 0
      runEach fuel standing name body rest
    | some (.again (n + 1)) => throw (.again n)
    | some stop => throw stop

/-- Carries out the first clause with a pattern that matches. -/
def runClauses : Nat → Standing → String → List (List Word × List Step) → Effect Unit
  | 0, _, _, _ => throw .exhausted
  | _, _, _, [] => setStatus 0
  | fuel + 1, standing, text, (patterns, body) :: rest => do
    let tokens ← patterns.mapM fun pattern => do
      return Field.tokens (← expand fuel (← atHome pattern))
    if tokens.any fun pattern => Glob.isMatch pattern text.toList then
      if body.isEmpty then setStatus 0
      runSteps fuel standing body
    else runClauses fuel standing text rest

/-- Gives variables the values of words, and gives the values back. -/
def assignAll : Nat → List (String × Word) → Effect (List (String × String))
  | 0, _ => throw .exhausted
  | _, [] => return []
  | fuel + 1, (name, word) :: rest => do
    let value ← expandText fuel (Home.inValue (Parameter.directoryOf (← state)) word)
    assign name value
    return (name, value) :: (← assignAll fuel rest)

/-- Carries out a command that is made up of words. -/
def runSimple :
    Nat → Standing → List (String × Word) → List Word → List Redirect → Effect Unit
  | 0, _, _, _, _ => throw .exhausted
  | fuel + 1, standing, assignments, words, redirects => do
    change fun s => { s with inner := none }
    let words ← commandFields fuel [] words
    let errors := (← state).channelOf 2
    match words with
    | [] =>
      redirected fuel standing.refused redirects do
        trace errors (← assignAll fuel assignments) []
        setStatus ((← state).inner.getD 0)
    | name :: arguments =>
      let isSpecial := Builtin.special.contains name
      if name == "exec" && arguments.isEmpty then
        if ← redirect fuel redirects then
          trace errors (← assignAll fuel assignments) words
          setStatus 0
        else throw .failed
      else
        let otherwise := if isSpecial then throw .failed else setStatus misuse
        redirected fuel otherwise redirects do
          let names := assignments.map (·.1)
          let before ← state
          trace errors (← assignAll fuel assignments) words
          if isSpecial || names.isEmpty then
            runCommand fuel standing .anywhere name arguments
          else
            names.forM exportName
            let stop ← caught (runCommand fuel standing.inside .anywhere name arguments)
            if !stop.any Stop.isFinal then
              names.forM fun name => giveBack (formerOf before name)
            stop.forM throw

/-- Carries out what the first word of a command names: a function, a command of the shell, or a
    program. -/
def runCommand : Nat → Standing → Sought → String → List String → Effect Unit
  | 0, _, _, _, _ => throw .exhausted
  | fuel + 1, standing, sought, name, arguments => do
    let s ← state
    let mayBeMeant := sought.functions && !Builtin.special.contains name
    let body := s.functions.find? fun entry => mayBeMeant && entry.1 == name
    match body with
    | some (_, task) =>
      if deepest ≤ s.depth then
        giveUp ("Maximum function recursion depth (" ++ toString deepest ++ ") reached")
      change fun s =>
        { s with arguments, scan := .start, formers := some [], depth := s.depth + 1, loops := 0 }
      let stop ← caught (runTask fuel standing.inside task)
      let after ← state
      change fun after =>
        { after with
          arguments := s.arguments
          scan := s.scan
          formers := s.formers
          depth := s.depth
          loops := s.loops }
      if !stop.any Stop.isFinal then (after.formers.getD []).forM giveBack
      match stop with
      | some (.result status) => settle (some (.result status))
      | stop => stop.forM throw
    | none =>
      let run := asBuiltin (sought.functions && Builtin.special.contains name) name
      match name, arguments with
      | "eval", _ => run (runText fuel standing.inside (" ".intercalate arguments))
      | "command", _ =>
        match Options.read ['p', 'v', 'V'] [] arguments with
        | .error flaw => run (giveUp flaw.complaint)
        | .ok (options, words) =>
          let isAsked (letter : Char) : Bool := options.any (·.1 == letter)
          let places := if isAsked 'p' then some Sought.standardPlaces else none
          match words with
          | [] => run (Builtin.answer true)
          | wanted :: rest =>
            if isAsked 'v' || isAsked 'V' then run (Meaning.describe places (isAsked 'V') [wanted])
            else runCommand fuel standing ⟨false, places⟩ wanted rest
      | "type", _ => run (Meaning.describe none true arguments)
      | "hash", _ => run (Meaning.hash arguments)
      | "exec", wanted :: rest =>
        run (runProgram fuel true (some (listedPlaces s)) (protestNotRun wanted) wanted rest)
      | ".", _ => run (runFile fuel arguments)
      | _, _ =>
        match Builtin.find? name arguments with
        | some effect => run effect
        | none =>
          let final := standing.final && !s.isPrepared
          if sought.places.isNone then change fun s => Meaning.track s name
          runProgram fuel final (some (sought.places.getD (listedPlaces s))) (protestNotRun name)
            name arguments

/-- Carries out a file in the script that names it. -/
def runFile : Nat → List String → Effect Unit
  | 0, _ => throw .exhausted
  | fuel + 1, arguments => do
    match ← operandsOf arguments with
    | [] => setStatus 0
    | file :: _ =>
      let s ← state
      match scriptFile? s file with
      | none => giveUp (file ++ ": not found")
      | some p =>
        match s.world.readBytes p with
        | .error _ => giveUp ("cannot open " ++ file ++ ": No such file")
        | .ok content =>
          let path := ofText p.spelling
          match ← caught (inNameOf path (runScript fuel (ofBytes content))) with
          | some (.result status) => settle (some (.result status))
          | stop => stop.forM throw

/-- Carries out a text in the script that it is part of. -/
def runText : Nat → Standing → String → Effect Unit
  | 0, _, _ => throw .exhausted
  | fuel + 1, standing, text => runLines fuel standing false false (.ofText text)

/-- Carries out the text of a file. -/
def runScript : Nat → String → Effect Unit
  | 0, _ => throw .exhausted
  | fuel + 1, text => runLines fuel .plain true false (.ofText text)

/-- Carries out what is left of a text line by line; `isBusy` tells whether anything of it has been
    carried out. What stands on a line can change how the next one is read. The lines of a file are
    shown as they are read if that is asked for. -/
def runLines : Nat → Standing → Bool → Bool → Source → Effect Unit
  | 0, _, _, _, _ => throw .exhausted
  | fuel + 1, standing, isFile, isBusy, source => do
    let s ← state
    let (line, after) := source.readLine s.aliases s.freeDocument
    if isFile && isSet s 'v' then
      let _ ← writeTo (s.channelOf 2) (String.ofList line.source)
    change fun s => { s with documents := line.documents ++ s.documents }
    let isLast := line.flaw.isNone && after.text.isEmpty
    let isBusy := isBusy || !line.steps.isEmpty
    runSteps fuel (if isLast then standing else standing.inside) line.steps
    line.flaw.forM fun flaw => do
      goOn flaw.line
      giveUp ("Syntax error: " ++ flaw.message)
    if !isLast then runLines fuel standing isFile isBusy after
    else if !isBusy then setStatus 0

/-- Carries out all that a process does, and at its end what is arranged for that. An exit with
    a status then changes how the process ends. -/
def concluded : Nat → Effect Unit → Effect Unit
  | 0, _ => throw .exhausted
  | fuel + 1, effect => do
    settle (← caught effect)
    let s ← state
    match (s.arrangement? 0).filter (!·.isEmpty) with
    | none => pure ()
    | some text =>
      change fun s =>
        { s with
          arrangements := s.arrangements.filter fun entry => entry.1 != 0
          interrupted := some s.status }
      match ← caught (runText fuel .plain text) with
      | some (.exit status) => setStatus status
      | some .failed => setStatus misuse
      | some (.killed signal) => throw (.killed signal)
      | some .exhausted => throw .exhausted
      | some (.result (some status)) =>
        setStatus (if isSet (← state) 'e' && status != 0 then status else s.status)
      | _ => setStatus s.status

/-- Runs a program, in place of the script if `final`. It is looked for in `places`. If it is not
    run, `refuse` tells why and gives back the status for that. -/
def runProgram :
    Nat → Bool → Option String → (Fault → Effect Nat) → String → List String → Effect Unit
  | 0, _, _, _, _, _ => throw .exhausted
  | fuel + 1, final, places, refuse, name, arguments => do
    let s ← state
    let start (invocation : Invocation) : Effect Unit := do
      if final then
        settle (← caught (invoke fuel invocation))
        throw (.exit (← state).status)
      else await (← apart (invoke fuel invocation))
    let world := { s.world with env := (environment s).put "PATH" (places.map toText) }
    match world.resolve (toText name) (arguments.map toText) with
    | .ok invocation => start invocation
    | .error .formatUnknown =>
      let path := (world.pathFor? (toText name)).getD (toText name)
      start (.ofScript path (arguments.map toText))
    | .error fault =>
      let status ← refuse fault
      if final then throw (.exit status) else setStatus status

/-- Does what a program of the system does, with the environment of the script that runs it. -/
def invoke : Nat → Invocation → Effect Unit
  | 0, _ => throw .exhausted
  | fuel + 1, ⟨program, name, arguments⟩ => do
    tick Duration.program
    let before ← state
    let world := { before.world with env := environment before }
    let ignoredNow := (before.arrangements.filter (·.2.isEmpty)).map (·.1)
    change fun _ =>
      { State.initial world with
        commons := before.commons
        descriptors := before.descriptors
        process := before.process
        group := before.group
        niceness := before.niceness
        ancestors := before.ancestors
        shell := before.process
        time := before.time
        horizon := before.horizon
        steps := before.steps
        ignored := ignoredNow ++ before.ignored
        self := ofText name }
    match program with
    | .native image => settle (← caught (Native.run fuel image name arguments))
    | .system program =>
      if Utility.shells.contains program then runShell fuel (arguments.map ofText)
      else runUtility fuel program (arguments.map ofText)

/-- Does what a program of the system does that is no shell. -/
def runUtility : Nat → String → List String → Effect Unit
  | 0, _, _ => throw .exhausted
  | fuel + 1, program, arguments => do
    if !Utility.immediate.contains program then
      change fun s => { s with outbox := some .empty }
    let effect := Utility.find? program (invoke fuel) arguments
    settle (← caught (effect.getD (setStatus 127)))
    flush
    (← state).shortfall.forM fun fault => do
      Utility.blame ("write error: " ++ fault.reason)
      setStatus (if program == "ls" then 2 else 1)
      change fun s => { s with shortfall := none }

/-- Does what a shell does with its arguments. -/
def runShell : Nat → List String → Effect Unit
  | 0, _ => throw .exhausted
  | fuel + 1, arguments => do
    change fun s => { s with dialect := some .plain }
    let s ← state
    startVariables
    Directory.start
    assign "PPID" (toString (s.ancestors.headD 1))
    let refuse (complaint : String) : Effect Unit := do
      complain (s.self ++ ": 0: " ++ complaint)
      throw (.exit misuse)
    match Start.ofArguments true [] arguments with
    | .error unknown => refuse unknown.complaint
    | .ok start =>
      change fun s => { s with switches := start.switches }
      match start.hasText, start.words with
      | true, [] => refuse "-c requires an argument"
      | true, text :: words =>
        change fun s => { s with self := words.headD s.self, arguments := words.drop 1 }
        concluded fuel (runText fuel .plain text)
      | false, words =>
        match words, start.switches.contains 's' with
        | file :: rest, false =>
          match s.world.readBytes ⟨toText file⟩ with
          | .ok content =>
            change fun s => { s with self := file, arguments := rest }
            concluded fuel (runScript fuel (ofBytes content))
          | .error fault =>
            let reason := if fault == .notFound then "No such file" else fault.reason
            refuse ("cannot open " ++ file ++ ": " ++ reason)
        | rest, _ =>
          change fun s =>
            { s with arguments := rest, switches := Switch.turn true 's' s.switches }
          concluded fuel (runScript fuel ((← readInput).toOption.getD ""))

end

/-- The steps that a program is granted. -/
def stepsGranted : Nat := 1000000000

/-- How a program failed that used up the steps it was granted. -/
def unfinished : Fault := .described "the program did not come to its end"

/-- Runs a program of the system in a world: how it ended and what it wrote, and the world that
    it left. -/
def program (w : World) (invocation : Invocation) : Except Fault Finish × World :=
  let first := State.initial w.forChild
  let turn := asProcess (invoke stepsGranted invocation) first
  let result := Schedule.run first.process stepsGranted none none [] turn
  let after := w.resume result.state.world World.runner
  match result.ending with
  | some ending =>
    let finish : Finish :=
      { ending
        output := result.state.collected State.outputBuffer
        errors := result.state.collected State.errorBuffer }
    (.ok finish, after)
  | none => (.error unfinished, after)

end Run
end Shell
end SuiteCoverage
