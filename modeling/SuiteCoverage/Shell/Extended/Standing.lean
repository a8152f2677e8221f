import SuiteCoverage.Shell.Extended.Expansion
import SuiteCoverage.Shell.Extended.Jobs

/-!
# How commands stand in scripts

What follows a command depends on where it stands: whether failing is taken care of, whether
anything is to be done after it, and whether it is a part of a shell that is a process of its own.
-/

set_option autoImplicit false

/-!
## Showing commands before they are carried out

If that is asked for, commands are shown on the error stream, or on another one that a variable
names. The first character of what stands in front of them is repeated for texts in texts.
-/

namespace SuiteCoverage
namespace Shell
namespace Extended
namespace Tracing

open Effect

/-- Where commands are shown. -/
def target (s : State) : Option Channel :=
  match (Store.textOf? s "BASH_XTRACEFD").bind String.toNat? with
  | some number => (s.channelOf number).or (s.channelOf 2)
  | none => s.channelOf 2

/-- What stands in front of commands. -/
def start (carrier : Carrier) (fuel : Nat) : Effect String := do
  let s ← state
  let raw := String.ofList (Expansion.prompted s ((Store.textOf? s "PS4").getD "").toList)
  let word := Reader.ofDocument raw.toList
  changeOwn fun own => own.turn "xtrace" false
  let text ← Expansion.text carrier fuel word
  changeOwn fun own => own.turn "xtrace" true
  setStatus s.status
  let first := text.toList.take 1
  let depth := max 1 s.own.textDepth
  return String.ofList ((List.replicate depth first).flatten ++ text.toList.drop 1)

/-- Shows a command if that is asked for. -/
def write (carrier : Carrier) (fuel : Nat) (text : String) : Effect Unit := do
  if ← isOn "xtrace" then
    let line := (← start carrier fuel) ++ text ++ "\n"
    let _ ← writeTo (target (← state)) line

/-- Shows the words of a command if that is asked for. -/
def writeWords (carrier : Carrier) (fuel : Nat) (words : List String) : Effect Unit :=
  write carrier fuel (" ".intercalate (words.map Escape.traced))

end Tracing
end Extended
end Shell
end SuiteCoverage

namespace SuiteCoverage
namespace Shell
namespace Extended

open Effect

/-- How a command stands in its script. -/
structure Standing where
  /-- Whether failing is taken care of. -/
  guarded : Bool
  /-- Whether the process has nothing more to do after it. A program can then take the place of
      the shell. -/
  final : Bool
  /-- Whether it counts as failed if it passes, and the other way round. -/
  negated : Bool
  /-- Whether it is a part of a pipeline, in a process of its own. -/
  piped : Bool

namespace Standing

/-- A command that stands for itself. -/
def plain : Standing := ⟨false, false, false, false⟩

/-- A command whose failing is taken care of. -/
def tried : Standing := ⟨true, false, false, false⟩

/-- A command inside another one, with more to do after it. -/
def inside (standing : Standing) : Standing := ⟨standing.guarded, false, false, false⟩

/-- A command with nothing to do after it. -/
def asLast (standing : Standing) : Standing := ⟨standing.guarded, true, false, false⟩

/-- A command in a pipeline. -/
def inPipe (standing : Standing) : Standing := ⟨standing.guarded, true, false, true⟩

end Standing

/-! ## Where a script is -/

/-- Carries out an effect on a line. -/
def atLine (line : Nat) (effect : Effect Unit) : Effect Unit := do
  let before := (← state).line
  goOn line
  let stop ← caught effect
  goOn before
  stop.forM throw

/-- Takes note of the command that is being carried out. -/
def present (command : Present) : Effect Unit :=
  changeOwn fun own => if own.arranged.isEmpty then { own with present := command } else own

/-- Takes note of the line that is told of a command that fails. -/
def mayFailAt (line : Nat) : Effect Unit :=
  changeOwn fun own => { own with failureLine := line }

/-- Takes note of how the last command went. -/
def noteStatus : Effect Unit :=
  change fun s => { s with own := { s.own with statuses := [s.status] } }

/-- Carries out an effect in the name of no command of the shell. -/
def unnamed (effect : Effect Unit) : Effect Unit := do
  let before := (← state).runner
  change fun s => { s with runner := none }
  let stop ← caught effect
  change fun s => { s with runner := before }
  stop.forM throw

/-- Carries out an effect one text deeper. -/
def deeper (effect : Effect Unit) : Effect Unit := do
  let before ← state
  changeOwn fun own => { own with textDepth := own.textDepth + 1 }
  let stop ← caught effect
  changeOwn fun own =>
    { own with textDepth := before.own.textDepth, present := before.own.present }
  stop.forM throw

/-- Carries out an effect, and closes the pipes that were opened for it. -/
def closingPipes (effect : Effect Unit) : Effect Unit := do
  let before := (← state).own.pipes
  let stop ← caught effect
  let opened := (← state).own.pipes.filter fun n => !before.contains n
  if !opened.isEmpty then
    opened.forM fun n => direct n none
    changeOwn fun own => { own with pipes := before }
    sweep
  stop.forM throw

/-! ## Parts of a shell -/

/-- Whether the arrangement for an occasion holds in parts of a shell as well. -/
def isInherited (own : Own) (occasion : Nat) : Bool :=
  if occasion = Trapping.afterFailure then own.has "errtrace"
  else (occasion = Trapping.beforeCommand || occasion = Trapping.afterFunction)
    && own.has "functrace"

/-- Carries out an effect as a part of the shell whose state was `before`, in a process of its own. -/
def within (before : State) (keepsJobs : Bool) (effect : Effect Unit) : Effect Unit := do
  change fun s =>
    let inherited := before.arrangements.filter fun entry => isInherited s.own entry.1
    let former := if s.own.formerArrangements.isEmpty then before.arrangements
      else s.own.formerArrangements
    { s with
      arrangements := inherited ++ s.arrangements
      detached := if keepsJobs then before.detached else []
      loops := 0
      own :=
        { s.own with
          level := s.own.level + 1
          formerArrangements := former
          jobs := if keepsJobs then s.own.jobs else []
          arranged := [] } }
  effect

/-- What becomes of what a part of the shell writes that is put in place of it. -/
def collected (before : State) (effect : Effect Unit) : Effect String := do
  let (text, ending) ← collect do
    changeOwn fun own =>
      { own with
        textDepth := own.textDepth + 1
        enabled := if own.has "inherit_errexit" then own.enabled
          else own.enabled.filter (· != "errexit") }
    within before true effect
  receive
  let status := Jobs.statusOf ending
  change fun s => { s with status, inner := some status }
  if text.toList.contains '\x00' then
    tell "warning: command substitution: ignored null byte in input"
  return substituted text

/-- The highest descriptor that pipes are given. -/
def lastPipe : Nat := 63

/-- A free descriptor for a pipe. -/
def freePipe (s : State) : Nat :=
  ((List.range lastPipe).find? fun n => (s.channelOf (lastPipe - n)).isNone).elim lastPipe
    (lastPipe - ·)

/-- Starts a part of the shell that writes to a pipe, or else reads from it, and gives back the path
    of the pipe. -/
def pipeTo (isInput : Bool) (effect : Effect Unit) : Effect String := do
  let before ← state
  let (reading, writing) ← newPipe
  let number := freePipe before
  direct number (some (if isInput then reading else writing))
  let closed := number :: before.own.pipes
  let theirs := if isInput then (1, writing) else (0, reading)
  let process ← startWith [theirs] do
    closed.forM fun n => direct n none
    sweep
    within before false effect
  changeOwn fun own => { own with pipes := closed }
  change fun s =>
    { s with detached := process :: s.detached, lastDetached := some process }
  return "/dev/fd/" ++ toString number

/-- Tells that a signal has ended a process, if that is worth a word. -/
def tellEnding (process : Nat) (text : State → String) : Ending → Effect Unit
  | .status _ => pure ()
  | .signal signal => do
    let s ← state
    let isQuiet := signal = 2 || signal = 13 || signal = 15 || s.isKept signal
    let isSilenced := s.own.commandText.isSome && 0 < s.own.level
    if !isQuiet && !isSilenced then
      tell (Text.padLeft 5 (toString process) ++ " " ++ Text.padRight 24 (Signal.effect signal)
        ++ text s)

end Extended
end Shell
end SuiteCoverage
