import SuiteCoverage.Shell.State

/-!
# Turns of processes

A process goes on until it has to wait, starts another process, or comes to its end. That is its
turn; what it does after it is a function of the state that it finds then. An effect is a piece of
a turn: from a state and from what is to be done with its result and the state that it leaves, it
makes a turn.
-/

set_option autoImplicit false

namespace SuiteCoverage
namespace Shell

/-- How a turn of a process ends, and what the process does after it. -/
inductive Turn where
  /-- The process has come to its end. -/
  | ended (ending : Ending) (s : State)
  /-- More steps than were granted. -/
  | exhausted (s : State)
  /-- The process waits until it finds the state to be `ready`, or until a time. -/
  | paused (s : State) (ready : State → Bool) (deadline : Option Nat) (next : State → Turn)
  /-- The process starts another one, which begins in the state `child`. -/
  | forked (s child : State) (start next : State → Turn)

/-- Runs in a process, and may stop its script. -/
def Effect (α : Type) : Type := State → (Except Stop α → State → Turn) → Turn

namespace Effect

instance : Monad Effect where
  pure a := fun s next => next (.ok a) s
  bind effect f := fun s next =>
    effect s fun
      | .ok a, s => f a s next
      | .error stop, s => next (.error stop) s

instance : MonadExceptOf Stop Effect where
  throw stop := fun s next => next (.error stop) s
  tryCatch effect handle := fun s next =>
    effect s fun
      | .ok a, s => next (.ok a) s
      | .error stop, s => handle stop s next

instance {α : Type} : Inhabited (Effect α) := ⟨throw .exhausted⟩

/-- The state. -/
def state : Effect State := fun s next => next (.ok s) s

/-- Changes the state. -/
def change (f : State → State) : Effect Unit := fun s next => next (.ok ()) (f s)

/-- Runs an effect that nothing stops beyond its end: gives back how it stopped, if it did. -/
def caught (effect : Effect Unit) : Effect (Option Stop) := fun s next =>
  effect s fun
    | .ok (), s => next (.ok none) s
    | .error stop, s => next (.ok (some stop)) s

/-- Notes how a command went. -/
def setStatus (status : Nat) : Effect Unit :=
  change fun s => { s with status }

/-- Goes on with another line of the script. -/
def goOn (line : Nat) : Effect Unit :=
  change fun s => { s with line }

/-- Whether a switch is set. -/
def isSet (s : State) (letter : Char) : Bool := s.switches.contains letter

end Effect

namespace State

/-! ## Signals

A signal that nothing is arranged for ends the process that receives it, unless the signal is
harmless. One that something is arranged for is kept until the current command is through.
-/

/-- What is arranged for a signal. -/
def arrangement? (s : State) (signal : Nat) : Option String :=
  (s.arrangements.find? fun entry => entry.1 == signal).map (·.2)

/-- Whether a signal is ignored. -/
def ignores (s : State) (signal : Nat) : Bool :=
  s.ignored.contains signal || s.arrangement? signal == some ""

/-- Whether anything is to be carried out when a signal is received. -/
def isPrepared (s : State) : Bool :=
  s.arrangements.any fun entry => !entry.2.isEmpty

/-- The signals that the process has been sent. -/
def received (s : State) : List Nat :=
  (s.commons.sent.filter fun entry => entry.1 == s.process).map (·.2)

/-- Whether a signal ends the process. -/
def isEndedBy (s : State) (signal : Nat) : Bool :=
  Signal.isCertain signal
    || (!s.ignores signal && (s.arrangement? signal).isNone && !Signal.isHarmless signal)

/-- Whether something is to be carried out when a signal is received. -/
def isKept (s : State) (signal : Nat) : Bool :=
  !s.ignores signal && (s.arrangement? signal).isSome

/-- Whether the process has been sent something for which something is to be carried out. -/
def isCalled (s : State) : Bool := s.received.any s.isKept

end State

namespace Effect

/-- Takes a signal that this process has been sent. -/
def take (signal : Nat) : Effect Unit :=
  change fun s =>
    { s with
      commons :=
        { s.commons with sent := s.commons.sent.filter (· != (s.process, signal)) } }

/-- Receives a signal. It stays where it is if something is arranged for it. -/
def receiveOne (signal : Nat) : Effect Unit := do
  let s ← state
  if s.isEndedBy signal then throw (.killed signal)
  if s.ignores signal || (s.arrangement? signal).isNone then take signal

/-- Receives what this process has been sent. -/
def receive : Effect Unit := do
  (← state).received.forM receiveOne

/-! ## Waiting -/

/-- Waits until something holds, until a time, or until a signal ends the process; if `isOpen`, also
    until a signal comes for which something is to be carried out. -/
def pause (ready : State → Bool) (deadline : Option Nat) (isOpen : Bool) : Effect Unit := do
  let holds (s : State) : Bool :=
    ready s || s.received.any s.isEndedBy || (isOpen && s.isCalled)
  let s ← state
  if !holds s then
    fun s next => .paused s holds deadline (next (.ok ()))
  receive

/-- The number of steps after which a process lets others go on in any case. -/
def stepsAtOnce : Nat := 64

/-- Takes a step, which takes a time. If it is another's turn by then that one goes on first. -/
def tick (cost : Nat) : Effect Unit := do
  change fun s =>
    { s with
      time := s.time + cost
      steps := s.steps + 1
      world := { s.world with now := s.time + cost } }
  let s ← state
  if s.horizon.any (· < s.time) || s.steps % stepsAtOnce == 0 then
    fun s next => .paused s (fun _ => true) none (next (.ok ()))
    receive

end Effect

/-! ## What things take, in millionths of a second -/

namespace Duration

/-- A command of the shell. -/
def command : Nat := 10

/-- Starting another process, for the one that starts it and for the one that is started. -/
def starting : Nat := 200
def started : Nat := 500

/-- Becoming another program. -/
def program : Nat := 800

/-- A second. -/
def second : Nat := 1000000

end Duration
end Shell
end SuiteCoverage
