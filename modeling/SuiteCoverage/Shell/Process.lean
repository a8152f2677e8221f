import SuiteCoverage.Child
import SuiteCoverage.Shell.Variable

/-!
# Processes

A part of a script can be carried out by a process of its own. The process starts with a copy of
the state; what comes back is what it did to the world and to what processes share, and how it
ended. What the script has arranged for signals does not hold in the process, apart from the
signals that it ignores.
-/

set_option autoImplicit false

/-!
## Signals in scripts

Scripts call signals by number or by a short name, in letters of either case. What a signal does
to a program is told in words.
-/

namespace SuiteCoverage
namespace Signal

/-- The largest number of a signal. -/
def last : Nat := 64

/-- The signals for the purposes of programs: the first of them, and the last that is called by
    its distance from the first. -/
def firstFree : Nat := 34
def lastCounted : Nat := 49

/-- The short name of a signal; the end of a script counts as the signal zero. -/
def shortName (number : Nat) : String :=
  let counted (start : String) (distance : Nat) :=
    if distance == 0 then start.dropEnd 1 |>.toString else start ++ toString distance
  if number == 0 then "EXIT"
  else if firstFree ≤ number && number ≤ lastCounted then counted "RTMIN+" (number - firstFree)
  else if lastCounted < number && number ≤ last then counted "RTMAX-" (last - number)
  else
    match name? number with
    | some name => if number == 16 then "16" else (name.drop 3).toString
    | none => toString number

/-- The signal that a text calls, from a lowest number on if it does so by name. -/
def ofText? (lowest : Nat) (text : String) : Option Nat :=
  if !text.isEmpty && text.toList.all Char.isDigit then
    text.toNat?.filter (· ≤ last)
  else
    (List.range' lowest (last + 1 - lowest)).find? fun number =>
      (shortName number).toLower == text.toLower

/-- What signals do, by number. -/
def effects : List (Nat × String) :=
  [(1, "Hangup"), (2, "Interrupt"), (3, "Quit"), (4, "Illegal instruction"),
    (5, "Trace/breakpoint trap"), (6, "Aborted"), (7, "Bus error"),
    (8, "Floating point exception"), (9, "Killed"), (10, "User defined signal 1"),
    (11, "Segmentation fault"), (12, "User defined signal 2"), (13, "Broken pipe"),
    (14, "Alarm clock"), (15, "Terminated"), (16, "Stack fault"), (17, "Child exited"),
    (18, "Continued"), (19, "Stopped (signal)"), (20, "Stopped"), (21, "Stopped (tty input)"),
    (22, "Stopped (tty output)"), (23, "Urgent I/O condition"), (24, "CPU time limit exceeded"),
    (25, "File size limit exceeded"), (26, "Virtual timer expired"),
    (27, "Profiling timer expired"), (28, "Window changed"), (29, "I/O possible"),
    (30, "Power failure"), (31, "Bad system call")]

/-- What a signal does, in words. -/
def effect (number : Nat) : String :=
  match effects.find? fun entry => entry.1 == number with
  | some entry => entry.2
  | none =>
    if firstFree ≤ number then "Real-time signal " ++ toString (number - firstFree)
    else "Unknown signal " ++ toString number

/-- Whether it is worth a word that a signal has ended a program: not if it was interrupted, or
    if nobody wanted to read what it wrote. -/
def isNotable (number : Nat) : Bool := number != 2 && number != 13

end Signal
end SuiteCoverage

namespace SuiteCoverage
namespace Shell
namespace Effect

/-! ## Signals -/

/-- Whether a process has come to its end. -/
def hasEnded (s : State) (process : Nat) : Bool :=
  s.commons.ended.any fun entry => entry.1 == process

/-- Whether there is a process that has not come to its end. -/
def isRunning (s : State) (process : Nat) : Bool :=
  process == s.process || s.commons.holders.any fun holder => holder.process == process

/-- Sends a signal to a process, and tells whether there is such a process. One that has not been
    waited for is there still. -/
def send (process signal : Nat) : Effect Bool := do
  let s ← state
  if isRunning s process then
    if signal == 19 then
      changeCommons fun c => { c with halted := process :: c.halted }
    else if signal == 18 then
      changeCommons fun c => { c with halted := c.halted.filter (· != process) }
    if signal != 0 && signal != 18 && signal != 19 then
      changeCommons fun c => { c with sent := c.sent ++ [(process, signal)] }
      if process == s.process then receive
    return true
  else return hasEnded s process || s.ancestors.contains process

/-- The processes of a group. -/
def membersOf (s : State) (group : Nat) : List Nat :=
  let others := (s.commons.holders.filter (·.group == group)).map Holder.process
  if s.group == group then others ++ [s.process] else others

/-- Sends a signal to all processes of a group, and tells whether there are any. -/
def sendToGroup (group signal : Nat) : Effect Bool := do
  let members := membersOf (← state) group
  members.forM fun process => do
    let _ ← send process signal
  return !members.isEmpty

/-- Sends a signal to a process, or to a group if the number is negative; zero stands for the
    group of the process that sends it. -/
def sendTo (target : Int) (signal : Nat) : Effect Bool := do
  if target == 0 then sendToGroup (← state).group signal
  else if target < 0 then sendToGroup target.natAbs signal
  else send target.natAbs signal

/-! ## Processes of their own -/

/-- How a process ended that stopped so, or else came to its end with a status. -/
def endingOf (status : Nat) : Option Stop → Ending
  | some (.killed signal) => .signal signal
  | some (.exit status) => .status (status % 256)
  | some .failed => .status misuse
  | some (.result (some status)) => .status (status % 256)
  | _ => .status (status % 256)

/-- The turn of a process that carries out an effect. -/
def asProcess (effect : Effect Unit) : State → Turn := fun s =>
  effect s fun
    | .ok (), s => .ended (endingOf s.status none) s
    | .error .exhausted, s => .exhausted s
    | .error stop, s => .ended (endingOf s.status (some stop)) s

/-- Carries out an effect as a process of its own, and gives back the number of the process. The
    descriptors that are given lead elsewhere in it from the start. -/
def startWith (directions : List (Nat × Channel)) (effect : Effect Unit) : Effect Nat := do
  let s ← state
  let child := directions.foldl (fun child entry => child.directed entry.1 (some entry.2)) s.forked
  fun s next =>
    .forked
      { s with
        world := { s.world with started := child.world.started }
        time := s.time + Duration.starting }
      { child with time := s.time + Duration.started }
      (asProcess effect) (next (.ok ()))
  receive
  return child.process

/-- Carries out an effect as a process of its own, and gives back the number of the process. -/
def start (effect : Effect Unit) : Effect Nat := startWith [] effect

/-- Takes note of the end of a process. -/
def reap (process : Nat) : Effect (Option Ending) := do
  let entry := (← state).commons.ended.find? fun entry => entry.1 == process
  changeCommons fun c => { c with ended := c.ended.filter fun entry => entry.1 != process }
  return entry.map (·.2)

/-- Waits for a process, and gives back how it ended. -/
def endOf (process : Nat) : Effect Ending := do
  pause (fun s => hasEnded s process) none false
  return (← reap process).getD (.status 127)

/-- Carries out an effect as a process of its own, and gives back how the process ended. -/
def apart (effect : Effect Unit) : Effect Ending := do
  endOf (← start effect)

/-- Notes how a process ended. That a signal ended it is worth a word. -/
def note : Ending → Effect Unit
  | .status status => setStatus status
  | .signal signal => do
    if Signal.isNotable signal then complain (Signal.effect signal)
    setStatus (128 + signal)

/-- Goes on after a process that was waited for. -/
def await (ending : Ending) : Effect Unit := do
  receive
  note ending

/-- Carries out an effect as a process of its own that is not waited for. It has nothing to
    read. -/
def detach (effect : Effect Unit) : Effect Unit := do
  let process ← startWith [(0, .device .null)] do
    change fun s => { s with ignored := 2 :: 3 :: s.ignored }
    effect
  change fun s => { s with detached := process :: s.detached, lastDetached := some process }
  setStatus 0

/-- Collects what an effect writes, carried out as a process of its own, and gives back how the
    process ended. -/
def collect (effect : Effect Unit) : Effect (String × Ending) := do
  let (reading, writing) ← newPipe
  let before := (← state).held
  change fun s => { s with held := reading :: before }
  let process ← startWith [(1, writing)] effect
  let text := ((← readAll (some reading)).toOption).getD ""
  change fun s => { s with held := before }
  sweep
  return (text, ← endOf process)

/-- What becomes of a text that is put in place of the command that wrote it: the line ends at its
    end are dropped, and so are characters that no value can have. -/
def substituted (text : String) : String :=
  let chars := text.toList.filter (· != '\x00')
  String.ofList (chars.reverse.dropWhile (· == '\n')).reverse

/-- Carries out the body of a loop. -/
def inLoop (body : Effect Unit) : Effect Unit := do
  change fun s => { s with loops := s.loops + 1 }
  let stop ← caught body
  change fun s => { s with loops := s.loops - 1 }
  stop.forM throw

/-- Notes how a part of a script stopped that is left by leaving it. -/
def settle : Option Stop → Effect Unit
  | none => pure ()
  | some (.exit status) => setStatus status
  | some .failed => setStatus misuse
  | some (.result status) => status.forM setStatus
  | some (.leave _) => pure ()
  | some (.again _) => pure ()
  | some stop => throw stop

end Effect

/-!
## Whose turn it is

Of the processes that can go on, the one goes on whose time is the earliest; of several with the
same time, the one that has waited longest. A process that waits for something can go on from the
time at which that came to be, and one that waits for a time from that time on.

A program has come to its end when its first process has and nobody holds its streams any more.
Processes that are left then go on for a short while, and are not heard of again.
-/

/-- A process that waits. -/
structure Waiting where
  state : State
  ready : State → Bool
  deadline : Option Nat
  /-- The time from which on it can go on, once it can. -/
  since : Option Nat
  next : State → Turn

namespace Waiting

/-- The time at which the process can go on as far as is known. -/
def time? (w : Waiting) : Option Nat :=
  match w.since, w.deadline with
  | some a, some b => some (min a b)
  | some a, none => some a
  | none, deadline => deadline

/-- Looks whether the process can go on, at a time and in a state. -/
def looked (now : Nat) (s : State) (w : Waiting) : Waiting :=
  if w.since.isNone && w.ready (w.state.resume s) then
    { w with since := some (max now w.state.time) }
  else w

/-- The process that can go on first, among those that have not been stopped. -/
def first? (halted : List Nat) : List Waiting → Option Waiting
  | [] => none
  | w :: rest =>
    let other := first? halted rest
    if halted.contains w.state.process then other
    else
      match w.time?, other.bind time? with
      | some a, some b => if a ≤ b then some w else other
      | some _, none => some w
      | none, _ => other

end Waiting

namespace Schedule

/-- What has come of a program. -/
structure Result where
  ending : Option Ending
  state : State

/-- Whether anybody holds the streams of a program. -/
def isHeard (s : State) : Bool :=
  s.commons.holders.any fun holder =>
    holder.channels.any fun channel =>
      channel == .buffer State.outputBuffer || channel == .buffer State.errorBuffer

/-- For how long processes go on that are left at the end. -/
def aftermath : Nat := 50000

/-- Lets processes go on until there is nothing more to be done. `main` is the first process, and
    `ending` how it ended, if it did; `limit` is the time after which no process goes on any more. -/
def run (main : Nat) : Nat → Option Ending → Option Nat → List Waiting → Turn → Result
  | 0, _, _, _, .ended _ s => ⟨none, s⟩
  | 0, _, _, _, .exhausted s => ⟨none, s⟩
  | 0, _, _, _, .paused s .. => ⟨none, s⟩
  | 0, _, _, _, .forked s .. => ⟨none, s⟩
  | fuel + 1, ending, limit, others, turn =>
    let goOn (ending : Option Ending) (now : Nat) (s : State) (others : List Waiting) : Result :=
      let others := others.map (Waiting.looked now s)
      let limit :=
        if ending.isSome && !isHeard s then some (limit.getD (now + aftermath)) else limit
      match Waiting.first? s.commons.halted others with
      | none => ⟨ending, s⟩
      | some w =>
        let time := w.time?.getD now
        if limit.any (· < time) then ⟨ending, s⟩
        else
          let rest := others.filter fun other => other.state.process != w.state.process
          let horizon := (Waiting.first? s.commons.halted rest).bind Waiting.time?
          let before := { w.state with time := max time w.state.time, horizon }
          run main fuel ending limit rest (w.next (before.resume s))
    match turn with
    | .exhausted s => ⟨none, s⟩
    | .ended how s =>
      let ending := if s.process == main then some how else ending
      let commons := { s.commons with ended := (s.process, how) :: s.commons.ended }
      goOn ending s.time { s with commons, descriptors := [], held := [] }.swept others
    | .paused s ready deadline next =>
      goOn ending s.time s.left (others ++ [⟨s, ready, deadline, none, next⟩])
    | .forked s child begin next =>
      let here : Waiting := ⟨s, fun _ => true, none, some s.time, next⟩
      let there : Waiting := ⟨child, fun _ => true, none, some child.time, begin⟩
      let after := (child.resume s.left).left
      goOn ending s.time after (others ++ [here, there])

end Schedule
end Shell
end SuiteCoverage
