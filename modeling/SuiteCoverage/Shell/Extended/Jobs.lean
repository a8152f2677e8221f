import SuiteCoverage.Shell.Extended.Trapping

/-!
# Jobs

What a shell has started and does not wait for is kept as a job, with a number of its own. A job is
forgotten once its end has been told or it has been waited for; how its processes ended is kept.
-/

set_option autoImplicit false

namespace SuiteCoverage
namespace Shell
namespace Extended
namespace Jobs

open Effect

/-- The status that an ending comes to. -/
def statusOf : Ending → Nat
  | .status status => status
  | .signal signal => 128 + signal

/-- Keeps processes as a job. -/
def add (processes : List Nat) (text : String) : Effect Unit := do
  changeOwn fun own =>
    let number := (own.jobs.map Job.number).foldl max 0 + 1
    { own with jobs := own.jobs ++ [⟨number, processes, text, false⟩] }
  change fun s =>
    { s with
      detached := processes.reverse ++ s.detached
      lastDetached := processes.getLast?.or s.lastDetached }

/-- Whether all processes of a job have ended. -/
def isDone (s : State) (job : Job) : Bool :=
  job.processes.all fun process =>
    hasEnded s process || s.own.endings.any fun entry => entry.1 == process

/-- Takes note of how a process ended. -/
def noteEnd (process : Nat) : Effect Unit := do
  (← reap process).forM fun ending => do
    changeOwn fun own => { own with endings := (process, statusOf ending) :: own.endings }
    change fun s => { s with detached := s.detached.filter (· != process) }

/-- The status of a process whose end has been noted. -/
def ended? (s : State) (process : Nat) : Option Nat :=
  (s.own.endings.find? fun entry => entry.1 == process).map (·.2)

/-- Forgets a job. -/
def forget (number : Nat) : Effect Unit :=
  changeOwn fun own => { own with jobs := own.jobs.filter fun job => job.number != number }

/-- How a job is doing, in a word. -/
def stateOf (s : State) (job : Job) : String :=
  match job.processes.getLast?.bind (ended? s) with
  | none => "Running"
  | some 0 => "Done"
  | some status =>
    if 128 < status && Trapping.isSignal (status - 128) then Signal.effect (status - 128)
    else "Exit " ++ toString status

/-- The sign of a job: the last one is the current one, and the one before it comes next. -/
def signOf (s : State) (job : Job) : String :=
  let numbers := (s.own.jobs.map Job.number).reverse
  if numbers.head? == some job.number then "+"
  else if (numbers.drop 1).head? == some job.number then "-"
  else " "

/-- A job as it is shown. -/
def shown (s : State) (withProcess : Bool) (job : Job) : String :=
  let word := stateOf s job
  let process := if withProcess then toString (job.processes.headD 0) ++ " " else ""
  "[" ++ toString job.number ++ "]" ++ signOf s job ++ "  " ++ process ++ Text.padRight 24 word
    ++ job.text ++ (if word = "Running" then " &" else "") ++ "\n"

/-- The job that a word behind a percent sign names. -/
def named? (s : State) (word : String) : Option Job :=
  let text := (word.drop 1).toString
  let jobs := s.own.jobs
  if text.isEmpty || text = "+" || text = "%" then jobs.getLast?
  else if text = "-" then (jobs.reverse.drop 1).head?
  else
    match text.toNat? with
    | some n => jobs.find? fun job => job.number == n
    | none =>
      if text.startsWith "?" then
        jobs.find? fun job => 1 < (job.text.splitOn (text.drop 1).toString).length
      else jobs.find? fun job => job.text.startsWith text

/-- Takes note of all processes that have ended. -/
def look : Effect Unit := do
  let s ← state
  (s.detached.filter (hasEnded s)).forM noteEnd

/-- Does what `jobs` does. -/
def jobs (arguments : List String) : Effect Unit := do
  let (options, words) ← options "lpnrs" "" arguments
  let isAsked (c : Char) : Bool := options.any (·.1 == c)
  look
  let s ← state
  let wanted ← if words.isEmpty then pure s.own.jobs else do
    let found ← words.mapM fun word => do
      match named? s (if word.startsWith "%" then word else "%" ++ word) with
      | some job => return [job]
      | none =>
        object (word ++ ": no such job")
        return []
    pure found.flatten
  wanted.forM fun job => do
    let isRunning := !isDone s job
    if (!isAsked 'r' || isRunning) && !isAsked 's' then
      if isAsked 'p' then say (toString (job.processes.headD 0) ++ "\n")
      else say (shown s (isAsked 'l') job)
  (wanted.filter (isDone s)).forM fun job => forget job.number
  answer (words.isEmpty || !wanted.isEmpty)

/-- Waits until something holds, or until a signal comes for which something is to be carried out:
    the status tells of it then. Tells whether it holds. -/
def waitUntil (holds : State → Bool) : Effect Bool := do
  pause holds none true
  let s ← state
  if holds s then return true
  match s.received.find? s.isKept with
  | some signal =>
    setStatus (128 + signal)
    return false
  | none => return true

/-- Waits for a process, which is one of this shell's. -/
def waitFor (process : Nat) : Effect Unit := do
  if (ended? (← state) process).isNone then
    if !(← waitUntil fun s => hasEnded s process) then failWith (← state).status
    noteEnd process
  setStatus ((ended? (← state) process).getD 127)
  let s ← state
  (s.own.jobs.filter (isDone s)).forM fun job =>
    if job.processes.contains process then forget job.number else pure ()

/-- Waits for one of some jobs. -/
def waitAny (wanted : List Job) : Effect (Option Nat) := do
  if wanted.isEmpty then
    setStatus 127
    return none
  else
    if !(← waitUntil fun s => wanted.any (isDone s)) then failWith (← state).status
    look
    let s ← state
    match wanted.find? (isDone s) with
    | some job =>
      let process := job.processes.getLastD 0
      setStatus ((ended? s process).getD 127)
      forget job.number
      return some process
    | none => return none

/-- The processes that a word names, the last of which counts. -/
def processesOf (word : String) : Effect (Option (List Nat)) := do
  let s ← state
  if word.startsWith "%" then
    match named? s word with
    | some job => return some job.processes
    | none =>
      object (word ++ ": no such job")
      setStatus 127
      return none
  else
    match word.toNat? with
    | none =>
      object ("\u0060" ++ word ++ "': not a pid or valid job spec")
      setStatus 1
      return none
    | some process =>
      if s.detached.contains process || (ended? s process).isSome then return some [process]
      object ("pid " ++ word ++ " is not a child of this shell")
      setStatus 127
      return none

/-- Does what `wait` does. -/
def wait (arguments : List String) : Effect Unit := do
  let (options, words) ← options "fn" "p" arguments
  let isAny := options.any (·.1 == 'n')
  let target := ((options.filter fun option => option.1 == 'p').getLast?).map (·.2)
  let keepProcess (process : Nat) : Effect Unit :=
    target.forM fun name => Setting.giveOrFail name (toString process)
  if isAny then
    let s ← state
    let wanted ← if words.isEmpty then pure s.own.jobs else do
      let found ← words.mapM fun word => do
        let processes := (← processesOf word).getD []
        return s.own.jobs.filter fun job => processes.any job.processes.contains
      pure found.flatten
    (← waitAny wanted).forM keepProcess
  else if words.isEmpty then
    if !(← waitUntil fun s => s.detached.all (hasEnded s)) then failWith (← state).status
    look
    changeOwn fun own => { own with jobs := [] }
    answer true
  else
    words.forM fun word => do
      match ← processesOf word with
      | none => pure ()
      | some processes =>
        processes.forM waitFor
        keepProcess (processes.getLastD 0)

/-- Does what `disown` does. -/
def disown (arguments : List String) : Effect Unit := do
  let (options, words) ← options "ahr" "" arguments
  let isAsked (c : Char) : Bool := options.any (·.1 == c)
  let s ← state
  if words.isEmpty then
    if isAsked 'a' || isAsked 'r' then changeOwn fun own => { own with jobs := [] }
    else
      match s.own.jobs.getLast? with
      | some job => forget job.number
      | none => fail "current: no such job"
    answer true
  else
    let results ← words.mapM fun word => do
      let found := if word.startsWith "%" then named? s word
        else s.own.jobs.find? fun job => (word.toNat?).any job.processes.contains
      match found with
      | some job =>
        if !isAsked 'h' then forget job.number
        return true
      | none =>
        object (word ++ ": no such job")
        return false
    answer (results.all id)

/-- What a word stands for to which a signal is sent. -/
def targetOf (word : String) : Effect Trapping.Target := do
  if word.startsWith "%" then
    match named? (← state) word with
    | some job => return .process (job.processes.headD 0)
    | none => return .noJob word
  else
    match Arithmetic.decimal? word with
    | some n => return .process n
    | none => return .unknown word

end Jobs
end Extended
end Shell
end SuiteCoverage
