import SuiteCoverage.Shell.Turn

/-!
# Reading and writing

A process reads and writes what its descriptors lead to. Who reads from a pipe waits while there is
nothing in it and somebody may still write to it; who writes to a pipe waits while it is full and
somebody may still read from it.
-/

set_option autoImplicit false

namespace SuiteCoverage
namespace Shell
namespace Effect

open State

/-! ## Descriptors -/

/-- Changes what processes share. -/
def changeCommons (f : Commons → Commons) : Effect Unit :=
  change fun s => { s with commons := f s.commons }

/-- Lets a descriptor lead somewhere, or nowhere. -/
def direct (descriptor : Nat) (channel : Option Channel) : Effect Unit :=
  change fun s => s.directed descriptor channel

/-- Opens something, and gives back where it can be read and written. -/
def openNew (opening : Opening) : Effect Channel := do
  let number := (← state).freeOpening
  changeCommons fun c => { c with openings := (number, opening) :: c.openings }
  return .opened number

/-- Lets a descriptor lead to something that is opened. -/
def directTo (descriptor : Nat) (opening : Opening) : Effect Unit := do
  direct descriptor (some (← openNew opening))

/-- Lets a descriptor lead to a text. -/
def directToText (descriptor : Nat) (text : String) : Effect Unit :=
  directTo descriptor ⟨.reading, .text, toBytes text, 0⟩

/-- Closes what nobody holds open any more. -/
def sweep : Effect Unit := change swept

/-- Holds channels open while an effect is carried out. -/
def holding (channels : List Channel) (effect : Effect Unit) : Effect Unit := do
  let before := (← state).held
  change fun s => { s with held := channels ++ before }
  let stop ← caught effect
  change fun s => { s with held := before }
  stop.forM throw

/-- Goes on from a place in what was opened. -/
def moveTo (number position : Nat) : Effect Unit :=
  changeCommons fun c =>
    { c with
      openings := c.openings.map fun entry =>
        if entry.1 = number then (number, { entry.2 with position }) else entry }

/-! ## Pipes -/

/-- Changes a pipe. -/
def changePipe (number : Nat) (f : Pipe → Pipe) : Effect Unit :=
  changeCommons fun c =>
    { c with
      pipes := c.pipes.map fun pipe => if pipe.number == number then f pipe else pipe }

/-- A new pipe: the end to be read, and the end to be written. -/
def newPipe : Effect (Channel × Channel) := do
  let number := (← state).freePipe
  changeCommons fun c => { c with pipes := ⟨number, .empty, 0, 1, 1⟩ :: c.pipes }
  let reading ← openNew ⟨.reading, .pipe number, .empty, 0⟩
  let writing ← openNew ⟨.writing, .pipe number, .empty, 0⟩
  return (reading, writing)

/-- What is in a pipe. -/
def contentOfPipe (s : State) (number : Nat) : ByteArray :=
  (s.pipe? number).elim .empty fun pipe => pipe.content.extract pipe.passed pipe.content.size

/-- Takes some bytes out of a pipe. -/
def drain (number count : Nat) : Effect Unit :=
  changePipe number fun pipe =>
    let passed := pipe.passed + count
    if pipe.content.size ≤ passed then { pipe with content := .empty, passed := 0 }
    else if Pipe.capacity ≤ passed then
      { pipe with content := pipe.content.extract passed pipe.content.size, passed := 0 }
    else { pipe with passed }

/-- Puts bytes into a pipe, once there is room. Who writes where nobody reads is ended. -/
def fill (number : Nat) (bytes : ByteArray) : Effect (Option Fault) := do
  let isRead (s : State) : Bool := s.hasEnd number Use.reads
  let hasRoom (s : State) : Bool := (s.pipe? number).any fun pipe => pipe.size < Pipe.capacity
  pause (fun s => hasRoom s || !isRead s) none false
  if isRead (← state) then
    changePipe number fun pipe => { pipe with content := pipe.content ++ bytes }
    return none
  else
    let s ← state
    if s.isEndedBy 13 then throw (.killed 13)
    return some .brokenPipe

/-! ## Writing -/

/-- Adds to a buffer. -/
def addTo (number : Nat) (bytes : ByteArray) (buffers : List (Nat × ByteArray)) :
    List (Nat × ByteArray) :=
  buffers.map fun entry => if entry.1 = number then (entry.1, entry.2 ++ bytes) else entry

/-- What there is to be read: of a file that is there still, what is in it now. -/
def contentOf (s : State) (opening : Opening) : ByteArray :=
  match opening.origin with
  | .file loc =>
    match s.world.disk.node? loc with
    | some (.file content _) => content
    | _ => opening.text
  | _ => opening.text

/-- A content in which bytes have been written from a place on. -/
def overwritten (content : ByteArray) (position : Nat) (bytes : ByteArray) : ByteArray :=
  if position = content.size then content ++ bytes
  else
    let gap : ByteArray := ⟨(List.replicate (position - content.size) 0).toArray⟩
    content.extract 0 position ++ gap ++ bytes
      ++ content.extract (position + bytes.size) content.size

/-- Writes to something that was opened, and tells why that could not be done, if so. -/
def writeToOpening (number : Nat) (bytes : ByteArray) : Effect (Option Fault) := do
  let s ← state
  match s.openingOf number with
  | none => return some .badDescriptor
  | some opening =>
    if !opening.use.writes then return some .badDescriptor
    match opening.origin with
    | .pipe pipe => fill pipe bytes
    | .text => return none
    | .file loc =>
      let position :=
        if opening.use = .appending then (contentOf s opening).size else opening.position
      change fun s =>
        { s with world := s.world.rewriteAt loc fun old => overwritten old position bytes }
      moveTo number (position + bytes.size)
      return none

/-- Writes bytes to a channel, and tells why that could not be done, if so. -/
def writeBytes (channel : Option Channel) (bytes : ByteArray) : Effect (Option Fault) := do
  if bytes.isEmpty then return none
  match channel with
  | none => return some .badDescriptor
  | some (.device .full) => return some .noSpace
  | some (.device _) => return none
  | some (.buffer number) =>
    changeCommons fun c => { c with buffers := addTo number bytes c.buffers }
    return none
  | some (.opened number) => writeToOpening number bytes

/-- Writes a text to a channel, and tells why that could not be done, if so. -/
def writeTo (channel : Option Channel) (text : String) : Effect (Option Fault) :=
  writeBytes channel (toBytes text)

/-- Writes bytes to the output at once. -/
def sayNow (bytes : ByteArray) : Effect Unit := do
  (← writeBytes ((← state).channelOf 1) bytes).forM fun fault =>
    change fun s => { s with shortfall := some fault }

/-- The size from which on what a program has for the output is written. -/
def outboxSize : Nat := 4096

/-- Writes what the program has for the output. -/
def flush : Effect Unit := do
  ((← state).outbox).forM fun bytes => do
    change fun s => { s with outbox := some .empty }
    sayNow bytes

/-- Writes bytes to the output, or keeps them until there is more to be written. -/
def sayBytes (bytes : ByteArray) : Effect Unit := do
  match (← state).outbox with
  | none => sayNow bytes
  | some before =>
    change fun s => { s with outbox := some (before ++ bytes) }
    if outboxSize ≤ before.size + bytes.size then flush

/-- Writes a text to the output. -/
def say (text : String) : Effect Unit := sayBytes (toBytes text)

/-- Writes a line to the error stream, if there is one. -/
def complain (text : String) : Effect Unit := do
  let _ ← writeTo ((← state).channelOf 2) (text ++ "\n")

/-- Writes to the error stream what is wrong on the current line. -/
def protest (text : String) : Effect Unit := do
  let s ← state
  let name := s.runner.elim "" (· ++ ": ")
  complain (s.self ++ ": " ++ toString s.line ++ ": " ++ name ++ text)

/-- The status of a misused command. -/
def misuse : Nat := 2

/-- Ends the script because of what is wrong on the current line. -/
def giveUp {α : Type} (complaint : String) : Effect α := do
  protest complaint
  throw .failed

/-! ## Reading -/

/-- What can be read from a channel now, and whether anything may follow it later. -/
def available (s : State) (channel : Option Channel) : Except Fault (ByteArray × Bool) :=
  match channel with
  | some (.device .null) => .ok (.empty, false)
  | some (.device _) => .ok (⟨(List.replicate 4096 0).toArray⟩, true)
  | some (.buffer _) => .error .badDescriptor
  | none => .error .badDescriptor
  | some (.opened number) =>
    match s.openingOf number with
    | none => .error .badDescriptor
    | some opening =>
      if !opening.use.reads then
        .error (if opening.use = .standing then .isADirectory else .badDescriptor)
      else
        match opening.origin with
        | .pipe pipe => .ok (contentOfPipe s pipe, s.hasEnd pipe Use.writes)
        | _ =>
          let content := contentOf s opening
          .ok (content.extract opening.position content.size, false)

/-- What is left to be read from a channel, once it is enough or all there will be. It is not read
    yet. -/
def offered (channel : Option Channel) (isEnough : ByteArray → Bool) :
    Effect (Except Fault ByteArray) := do
  let isThere (s : State) : Bool := match available s channel with
    | .error _ => true
    | .ok (bytes, isOpen) => !isOpen || isEnough bytes || Pipe.capacity ≤ bytes.size
  let isEndless : Bool := match channel with
    | some (.device _) => true
    | _ => false
  if !isEndless then pause isThere none false
  return (available (← state) channel).map (·.1)

/-- Passes over some of what is left to be read from a channel. -/
def passOver (channel : Option Channel) (count : Nat) : Effect Unit := do
  match channel with
  | some (.opened number) =>
    ((← state).openingOf number).forM fun opening =>
      match opening.origin with
      | .pipe pipe => drain pipe count
      | _ => moveTo number (opening.position + count)
  | _ => pure ()

/-- Reads some of what is left to be read from a channel, `limit` bytes at most. There is nothing
    left if it is empty. -/
def readSome (channel : Option Channel) (limit : Nat) : Effect (Except Fault ByteArray) := do
  match ← offered channel (!·.isEmpty) with
  | .error fault => return .error fault
  | .ok bytes =>
    let bytes := bytes.extract 0 limit
    passOver channel bytes.size
    return .ok bytes

/-- How often is read at most to read all. -/
def readLimit : Nat := 1000000

/-- Reads on, behind what has been read already. -/
def readOn (channel : Option Channel) : Nat → ByteArray → Effect (Except Fault ByteArray)
  | 0, before => return .ok before
  | count + 1, before => do
    match ← readSome channel Pipe.capacity with
    | .error fault => return .error fault
    | .ok bytes =>
      if bytes.isEmpty then return .ok before
      tick 1
      readOn channel count (before ++ bytes)

/-- Reads all that is left to be read from a channel. -/
def readAll (channel : Option Channel) : Effect (Except Fault String) := do
  return (← readOn channel readLimit .empty).map ofBytes

/-- Reads all that is left of the input. -/
def readInput : Effect (Except Fault String) := do
  readAll ((← state).channelOf 0)

end Effect
end Shell
end SuiteCoverage
