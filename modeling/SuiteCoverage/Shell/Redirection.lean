import SuiteCoverage.Shell.Variable

/-!
# Redirections

A redirection lets a descriptor of a command lead to a file or to where another descriptor leads.
A file that is written to is there from then on, even if nothing comes to be written.
-/

set_option autoImplicit false

namespace SuiteCoverage
namespace Shell
namespace Redirection

open Effect

/-- What is wrong with the target of a redirection. -/
def redirectFault (start missing target : String) (fault : Fault) : Effect Bool := do
  let reason := match fault with
    | .notFound => missing
    | .notADirectory => missing
    | other => other.reason
  protest (start ++ " " ++ target ++ ": " ++ reason)
  return false

/-- The world in which a file is open to be written to. -/
def openedFor (s : State) (direction : Direction) (p : Pathname) : Except Fault World :=
  let isThere : Bool := match s.world.stat p with
    | .ok node => node.isRegular
    | .error _ => false
  if direction = .append ∨ direction = .both then s.world.append p .empty
  else if direction = .output ∧ isSet s 'C' ∧ isThere then .error .alreadyThere
  else s.world.write p .empty

/-- What can be done with a file that a redirection opens. -/
def useOf : Direction → Use
  | .input => .reading
  | .both => .both
  | .append => .appending
  | _ => .writing

/-- The descriptor that a path stands for, if it does for one. -/
def descriptorAt? (target : String) : Option Nat :=
  match target with
  | "/dev/stdin" => some 0
  | "/dev/stdout" => some 1
  | "/dev/stderr" => some 2
  | _ => if target.startsWith "/dev/fd/" then (target.drop 8).toNat? else none

/-- Opens a queue. Who opens it to read waits for somebody who writes, and the other way round. -/
def openQueue (number : Nat) (use : Use) : Effect Channel := do
  let s ← state
  let isNew := (s.pipe? number).isNone
  if isNew then changeCommons fun c => { c with pipes := ⟨number, .empty, 0, 0, 0⟩ :: c.pipes }
  let before := ((← state).pipe? number).getD ⟨number, .empty, 0, 0, 0⟩
  let channel ← openNew ⟨use, .pipe number, .empty, 0⟩
  changePipe number fun pipe =>
    { pipe with
      readings := pipe.readings + if use.reads then 1 else 0
      writings := pipe.writings + if use.writes then 1 else 0 }
  let isMet (s : State) : Bool :=
    let now := (s.pipe? number).getD before
    if use = .reading then s.hasEnd number Use.writes || before.writings < now.writings
    else if use = .both then true
    else s.hasEnd number Use.reads || before.readings < now.readings
  holding [channel] (pause isMet none false)
  return channel

/-- Opens what is at a path. -/
def openAt (use : Use) (p : Pathname) : Effect Channel := do
  match (← state).world.locate .through p with
  | .ok (.present loc (.file content _)) => openNew ⟨use, .file loc, content, 0⟩
  | .ok (.present loc (.program name)) => openNew ⟨use, .file loc, name.toUTF8, 0⟩
  | .ok (.present _ (.queue number _)) => openQueue number use
  | .ok (.present _ (.device device)) => return .device device
  | .ok (.present _ (.directory ..)) => openNew ⟨.standing, .text, .empty, 0⟩
  | _ => return .device .null

/-- Lets a descriptor lead to the file that is open at a path. -/
def directToFile (descriptor : Nat) (direction : Direction) (p : Pathname) : Effect Unit := do
  direct descriptor (some (← openAt (useOf direction) p))

/-- Opens a file for a redirection, and tells whether that was possible. A directory can be opened
    to be read. -/
def openFile (descriptor : Nat) (direction : Direction) (target : String) : Effect Bool := do
  let s ← state
  let p : Pathname := ⟨toText target⟩
  match (descriptorAt? target).bind (s.channelOf) with
  | some channel =>
    direct descriptor (some channel)
    return true
  | none =>
    let result := if direction = .input then (s.world.readBytes p).map fun _ => s.world
      else openedFor s direction p
    match result with
    | .ok world =>
      change fun s => { s with world }
      directToFile descriptor direction p
      return true
    | .error fault =>
      if direction = .input ∧ fault = .isADirectory then
        directTo descriptor ⟨.standing, .text, .empty, 0⟩
        return true
      else if direction = .input then redirectFault "cannot open" "No such file" target fault
      else redirectFault "cannot create" "Directory nonexistent" target fault

/-- Lets a descriptor lead to where another leads, or nowhere, and tells whether that was
    possible. -/
def duplicate (descriptor : Nat) (target : String) : Effect Bool := do
  let s ← state
  match target.toList with
  | ['-'] =>
    direct descriptor none
    return true
  | [c] =>
    if !c.isDigit then unreadable
    else
      match s.channelOf ((String.singleton c).toNat?.getD 0) with
      | some channel =>
        direct descriptor (some channel)
        return true
      | none =>
        protest (target ++ ": Bad file descriptor")
        return false
  | _ => unreadable
where
  /-- The target is no descriptor. -/
  unreadable : Effect Bool := do
    change fun s => { s with line := s.line + 1 }
    giveUp "Syntax error: Bad fd number"

/-- Lets the descriptor of a redirection lead again to where it led before. -/
def undo (before : State) : Redirect → Effect Unit
  | .to descriptor .. => direct descriptor (before.channelOf descriptor)
  | .document descriptor _ => direct descriptor (before.channelOf descriptor)

end Redirection
end Shell
end SuiteCoverage
