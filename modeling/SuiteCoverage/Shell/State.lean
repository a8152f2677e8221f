import SuiteCoverage.Child
import SuiteCoverage.Shell.Arithmetic
import SuiteCoverage.Text.Decoding
import SuiteCoverage.Shell.Extended.Own
import SuiteCoverage.Shell.Scan
import SuiteCoverage.Shell.Script
import SuiteCoverage.World.Writing

/-!
# The state of a process

What a process has in its hands: the world, its variables and functions, its arguments, what its
descriptors lead to, and how its last command went. What is written to a stream is collected in
buffers. A file that is open is read and written from a place on that all share who have it from
the same opening; it may also be a text that is in no file, or a pipe.

Processes are known by their numbers. One of them goes on at a time, and every process has a time
of its own, in millionths of a second; what all of them share is passed on from one to the other.

A script stops where a command ends it, where a signal does, or where the steps it was granted
are used up; leaving a function or a loop is a stop that the function or the loop takes up.
-/

set_option autoImplicit false

namespace SuiteCoverage
namespace Shell

/-- What a descriptor leads to. -/
inductive Channel where
  /-- A buffer, which can only be written to. -/
  | buffer (number : Nat)
  /-- Something that was opened. -/
  | opened (number : Nat)
  | device (device : Device)
deriving DecidableEq

/-- What can be done with something that was opened. -/
inductive Use where
  | reading
  | writing
  /-- Writing where the file ends then. -/
  | appending
  | both
  /-- Nothing, because it is a directory. -/
  | standing
deriving DecidableEq, Repr

/-- Whether what was opened can be read. -/
def Use.reads (use : Use) : Bool := use = reading || use = both

/-- Whether what was opened can be written. -/
def Use.writes (use : Use) : Bool := use = writing || use = appending || use = both

/-- What was opened. -/
inductive Origin where
  | file (loc : Location)
  /-- A text that is in no file. -/
  | text
  | pipe (number : Nat)
deriving DecidableEq, Repr

/-- Something that was opened. -/
structure Opening where
  use : Use
  origin : Origin
  /-- The text; of a file, what was in it when it was opened. -/
  text : ByteArray
  /-- How far it has been read or written. -/
  position : Nat

/-- What was written to a pipe and has not been read yet. -/
structure Pipe where
  number : Nat
  content : ByteArray
  /-- How much of the content has been read. -/
  passed : Nat
  /-- How often it was opened to be read, and to be written. -/
  readings : Nat
  writings : Nat

/-- How much a pipe holds before who writes to it has to wait. -/
def Pipe.capacity : Nat := 65536

/-- How much there is in a pipe. -/
def Pipe.size (pipe : Pipe) : Nat := pipe.content.size - pipe.passed

/-- A process that waits. -/
structure Holder where
  process : Nat
  /-- The process that its group is called by. -/
  group : Nat
  /-- Where its descriptors lead. -/
  channels : List Channel

/-- What processes share besides the disk. -/
structure Commons where
  /-- What was opened, by its numbers. -/
  openings : List (Nat × Opening)
  pipes : List Pipe
  buffers : List (Nat × ByteArray)
  /-- What processes have been sent and have not received yet: the process and the signal. -/
  sent : List (Nat × Nat)
  /-- The processes that have come to their ends, and how. -/
  ended : List (Nat × Ending)
  /-- The processes that wait. -/
  holders : List Holder
  /-- The processes that have been stopped. -/
  halted : List Nat

/-- Why a script does not go on. -/
inductive Stop where
  | exit (status : Nat)
  /-- Something is wrong. That ends the script, unless it was wrong in a command that may fail. -/
  | failed
  /-- A function is left, with a status of its own or with that of its last command. -/
  | result (status : Option Nat)
  /-- Loops are left, `levels` of them besides the innermost. -/
  | leave (levels : Nat)
  /-- A loop goes on with its next round, after `levels` others have been left. -/
  | again (levels : Nat)
  | killed (signal : Nat)
  /-- The rest of what has been read at once is not carried out. -/
  | discarded
  /-- More steps than were granted. -/
  | exhausted
deriving DecidableEq, Repr

/-- Whether a stop ends the script. Variables then keep their last values. -/
def Stop.isFinal : Stop → Bool
  | exit _ => true
  | failed => true
  | _ => false

/-- What a variable was before a function took its name for a variable of its own. -/
structure Former where
  name : String
  value : Option String
  isExported : Bool

/-- The forms of the language in which scripts are written. -/
inductive Dialect where
  /-- What all shells understand. -/
  | plain
  /-- With lists, conditions in brackets, and more. -/
  | extended
deriving DecidableEq, Repr

/-- The state of a process. -/
structure State where
  world : World
  commons : Commons
  /-- The form of the scripts that the process carries out, if it is a shell. -/
  dialect : Option Dialect
  values : Environment
  /-- The variables that programs are started with. -/
  exported : List String
  /-- The variables that keep their values. -/
  fixed : List String
  functions : List (String × Task)
  /-- The aliases, in the order in which they were made, and what they stand for. -/
  aliases : List (String × String)
  /-- The programs that have been looked for and found, and their paths. -/
  tracked : List (String × String)
  /-- Inside a function, what has to be given back at its end. -/
  formers : Option (List Former)
  /-- The number of functions that the current command is part of. -/
  depth : Nat
  /-- The number of loops around the current command, in the current function. -/
  loops : Nat
  arguments : List String
  /-- How far the arguments have been searched for options. -/
  scan : Scan
  /-- What the script was started as. -/
  self : String
  status : Nat
  /-- How the last script went whose output became part of the current command. -/
  inner : Option Nat
  /-- While something is carried out in between, the status that the script goes on with. -/
  interrupted : Option Nat
  line : Nat
  /-- The command of the shell that is being carried out, if any: what goes wrong meanwhile is
      told in its name. -/
  runner : Option String
  /-- The letters of the switches that are set. -/
  switches : List Char
  /-- The path of the directory worked in, as the script has got there; empty if unknown. -/
  directory : String
  /-- The process that carries the script out. -/
  process : Nat
  /-- The process that its group is called by: signals can be sent to all of a group. -/
  group : Nat
  /-- By how much it lets others go first. -/
  niceness : Nat
  /-- The processes that it comes from, the nearest first. -/
  ancestors : List Nat
  /-- The process that the script goes by. Parts of it that run as processes of their own go by
      the same one. -/
  shell : Nat
  /-- What is carried out when a signal is received; nothing is if the text is empty. The end
      of the script counts as the signal zero. -/
  arrangements : List (Nat × String)
  /-- The signals that were ignored already when the script was started. -/
  ignored : List Nat
  /-- The processes that were started and not waited for, the last first. -/
  detached : List Nat
  /-- The one of them that was started last. -/
  lastDetached : Option Nat
  /-- The documents of all that has been read, by their numbers. -/
  documents : List (Nat × Word)
  descriptors : List (Nat × Channel)
  /-- What is held open without a descriptor. -/
  held : List Channel
  /-- What a program has for the output and has not written yet, if it writes in larger pieces. -/
  outbox : Option ByteArray
  /-- Why something could not be written to the output, if so. -/
  shortfall : Option Fault
  /-- The time of the process. -/
  time : Nat
  /-- The time at which another process is to go on. -/
  horizon : Option Nat
  /-- The number of steps that the process has taken. -/
  steps : Nat
  /-- What the process knows if it is an extended shell. -/
  own : Extended.Own

namespace State

/-- The names of the buffers for the output and for the error stream. -/
def outputBuffer : Nat := 0
def errorBuffer : Nat := 1

/-- The number of the process that was started last in a world. -/
def newest (world : World) : Nat := 4096 + world.started

/-- What the first of several processes finds. -/
def Commons.initial : Commons where
  openings := []
  pipes := []
  buffers := [(outputBuffer, .empty), (errorBuffer, .empty)]
  sent := []
  ended := []
  holders := []
  halted := []

/-- The state in which a program starts: with the environment and the directory of the world it
    is started in, nothing to read, and both streams collected. -/
def initial (world : World) : State where
  world := world
  commons := Commons.initial
  dialect := none
  values := world.env.map fun entry => (ofText entry.1, ofText entry.2)
  exported := world.env.map fun entry => ofText entry.1
  fixed := []
  functions := []
  aliases := []
  tracked := []
  formers := none
  depth := 0
  loops := 0
  arguments := []
  scan := .start
  self := "sh"
  status := 0
  inner := none
  interrupted := none
  line := 1
  runner := none
  switches := []
  directory := ""
  process := newest world
  group := newest world
  niceness := 0
  ancestors := []
  shell := newest world
  arrangements := []
  ignored := []
  detached := []
  lastDetached := none
  documents := []
  descriptors := [(0, .device .null), (1, .buffer outputBuffer), (2, .buffer errorBuffer)]
  held := []
  outbox := none
  shortfall := none
  time := world.now
  horizon := none
  steps := 0
  own := .initial

/-- What a buffer holds. -/
def collected (s : State) (number : Nat) : ByteArray :=
  ((s.commons.buffers.find? fun entry => entry.1 == number).map (·.2)).getD .empty

/-- A number that no document has, and none after it. -/
def freeDocument (s : State) : Nat :=
  (s.documents.map (·.1)).foldl max 0 + 1

/-- A number that nothing has that was opened, and none after it. -/
def freeOpening (s : State) : Nat :=
  (s.commons.openings.map (·.1)).foldl max 0 + 1

/-- A number that no pipe has. -/
def freePipe (s : State) : Nat :=
  (s.commons.pipes.map (·.number)).foldl max 0 + 1

/-! ## Descriptors -/

/-- What a descriptor leads to. -/
def channelOf (s : State) (descriptor : Nat) : Option Channel :=
  (s.descriptors.find? fun entry => entry.1 == descriptor).map (·.2)

/-- The state in which a descriptor leads somewhere, or nowhere. -/
def directed (s : State) (descriptor : Nat) (channel : Option Channel) : State :=
  let others := s.descriptors.filter fun entry => entry.1 != descriptor
  { s with
    descriptors := match channel with
      | some channel => (descriptor, channel) :: others
      | none => others }

/-- What was opened with a number. -/
def openingOf (s : State) (number : Nat) : Option Opening :=
  (s.commons.openings.find? fun entry => entry.1 == number).map (·.2)

/-- A pipe by its number. -/
def pipe? (s : State) (number : Nat) : Option Pipe :=
  s.commons.pipes.find? fun pipe => pipe.number == number

/-- All that the descriptors of a process lead to. -/
def channels (s : State) : List Channel := s.descriptors.map (·.2) ++ s.held

/-- All that processes hold open. -/
def allHeld (s : State) : List Channel := s.channels ++ s.commons.holders.flatMap Holder.channels

/-- Whether anybody holds open one end of a pipe. -/
def hasEnd (s : State) (pipe : Nat) (kind : Use → Bool) : Bool :=
  s.allHeld.any fun
    | .opened number =>
      (s.openingOf number).any fun opening => opening.origin == .pipe pipe && kind opening.use
    | _ => false

/-- The state without what nobody holds open any more. -/
def swept (s : State) : State :=
  let held := s.allHeld
  let openings := s.commons.openings.filter fun entry => held.contains (.opened entry.1)
  let pipes := s.commons.pipes.filter fun pipe =>
    openings.any fun entry => entry.2.origin == .pipe pipe.number
  { s with commons := { s.commons with openings, pipes } }

/-! ## Processes -/

/-- The state of a process that waits, as it is for the others. -/
def left (s : State) : State :=
  { s with
    world := s.world.leave s.process
    commons := { s.commons with holders := ⟨s.process, s.group, s.channels⟩ :: s.commons.holders } }

/-- The state of a process that goes on which had left the state `before`, after another has left
    the state `after`. -/
def resume (before after : State) : State :=
  { before with
    world := before.world.resume after.world before.process
    commons :=
      { after.commons with
        holders := after.commons.holders.filter fun holder => holder.process != before.process } }

/-- The state of a process that carries out a part of a script. -/
def forked (s : State) : State :=
  let world := { s.world with started := s.world.started + 1 }
  { s with
    world
    process := newest world
    ancestors := s.process :: s.ancestors
    arrangements := s.arrangements.filter (·.2.isEmpty)
    detached := []
    held := [] }

end State
end Shell
end SuiteCoverage
