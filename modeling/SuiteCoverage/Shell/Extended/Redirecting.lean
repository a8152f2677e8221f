import SuiteCoverage.Shell.Extended.Expansion
import SuiteCoverage.Shell.Redirection

/-!
# Redirections of the extended shell

Where the descriptors of a command lead. The target has to be a single word. A descriptor can be
kept in a variable, and then stays open after the command.
-/

set_option autoImplicit false

namespace SuiteCoverage
namespace Shell
namespace Extended
namespace Redirecting

open Effect

/-- The world in which a file is open to be written to. -/
def openedFor (s : State) (direction : Direction) (p : Pathname) : Except Fault World :=
  let isThere : Bool := match s.world.stat p with
    | .ok node => node.isRegular
    | .error _ => false
  match direction with
  | .input => (s.world.readBytes p).map fun _ => s.world
  | .both => s.world.append p .empty
  | .append => s.world.append p .empty
  | .appendAll => s.world.append p .empty
  | .overwrite => s.world.write p .empty
  | _ =>
    if s.own.has "noclobber" && isThere then .error .alreadyThere
    else s.world.write p .empty

/-- What can be done with a file that a redirection opens. -/
def useOf : Direction → Use
  | .input => .reading
  | .both => .both
  | .append => .appending
  | .appendAll => .appending
  | _ => .writing

/-- The descriptor that a redirection is about unless it says so. -/
def usualOf : Direction → Nat
  | .input => 0
  | .both => 0
  | .sameInput => 0
  | _ => 1

/-- The descriptor from which on a free one is taken to be kept in a variable. -/
def firstKept : Nat := 10

/-- A free descriptor. -/
def freeFrom (s : State) (first : Nat) : Nat :=
  ((List.range' first (s.descriptors.length + 1)).find? fun n => (s.channelOf n).isNone).getD first

/-- Opens what a redirection leads to; `none` if that is not possible, which is told. -/
def openFile (direction : Direction) (target : String) : Effect (Option Channel) := do
  let s ← state
  let p : Pathname := ⟨toText target⟩
  match Redirection.descriptorAt? target with
  | some n =>
    match s.channelOf n with
    | some channel => return some channel
    | none =>
      tell (target ++ ": No such file or directory")
      return none
  | none =>
    match openedFor s direction p with
    | .ok world =>
      change fun s => { s with world }
      return some (← Redirection.openAt (useOf direction) p)
    | .error fault =>
      if direction = .input ∧ fault = .isADirectory then
        return some (← openNew ⟨.standing, .text, .empty, 0⟩)
      let reason := match fault with
        | .alreadyThere => "cannot overwrite existing file"
        | fault => fault.reason
      tell (target ++ ": " ++ reason)
      return none

/-- The descriptors that a redirection lets lead elsewhere. One that is kept in a variable is given
    it. -/
def chosen (redirected : Redirected) (usual : Nat) : Effect (Option Nat) := do
  match redirected with
  | .usual => return some usual
  | .number n => return some n
  | .variable_ name =>
    let n := freeFrom (← state) firstKept
    if ← Setting.give name (toString n) then return some n else return none

/-- Lets a descriptor lead somewhere, and gives back the descriptors that lead again to where they
    led before after the command. -/
def lead (redirected : Redirected) (usual : Nat) (channel : Channel) :
    Effect (Option (List Nat)) := do
  match ← chosen redirected usual with
  | none => return none
  | some n =>
    direct n (some channel)
    return some (match redirected with
      | .variable_ _ => []
      | _ => [n])

/-- The descriptor that a redirection closes or that is read from its variable. -/
def meantBy (redirected : Redirected) (usual : Nat) : Effect Nat := do
  match redirected with
  | .usual => return usual
  | .number n => return n
  | .variable_ name => return ((Store.textOf? (← state) name).bind String.toNat?).getD usual

/-- Lets a descriptor lead to where another one leads, or nowhere. `shown` is the target as it
    stands in the script. -/
def duplicate (redirected : Redirected) (direction : Direction) (shown target : String) :
    Effect (Option (List Nat)) := do
  let usual := usualOf direction
  let moves := target.endsWith "-" && target != "-"
  let digits := if moves then (target.dropEnd 1).toString else target
  if target = "-" then
    let n ← meantBy redirected usual
    direct n none
    return some (match redirected with
      | .variable_ _ => []
      | _ => [n])
  else if !digits.isEmpty && digits.toList.all Char.isDigit then
    let source := digits.toNat?.getD 0
    match (← state).channelOf source with
    | none =>
      tell (shown ++ ": Bad file descriptor")
      return none
    | some channel =>
      let done ← lead redirected usual channel
      if moves then direct source none
      return done.map fun numbers => if moves then source :: numbers else numbers
  else if direction = .sameOutput && redirected = .usual then
    match ← openFile .output target with
    | none => return none
    | some channel =>
      direct 1 (some channel)
      direct 2 (some channel)
      return some [1, 2]
  else
    tell (shown ++ ": ambiguous redirect")
    return none

/-- Carries out a redirection, and gives back the descriptors that lead elsewhere for it; `none` if
    it is not possible. -/
def one (carrier : Carrier) (fuel : Nat) : Redirect → Effect (Option (List Nat))
  | .text redirected word => do
    let text ← Expansion.single carrier fuel word
    lead redirected 0 (← openNew ⟨.reading, .text, toBytes (text ++ "\n"), 0⟩)
  | .document redirected number => do
    let document := ((← state).own.documents.find? fun entry => entry.1 == number).map (·.2)
    let text ← Expansion.text carrier fuel ((document.map Document.word).getD [])
    lead redirected 0 (← openNew ⟨.reading, .text, toBytes text, 0⟩)
  | .to redirected direction target => do
    match ← Expansion.fields carrier fuel [target] with
    | [path] =>
      match direction with
      | .sameInput => duplicate redirected direction target.raw path
      | .sameOutput => duplicate redirected direction target.raw path
      | direction =>
        match ← openFile direction path with
        | none => return none
        | some channel =>
          if direction = .all || direction = .appendAll then
            direct 1 (some channel)
            direct 2 (some channel)
            return some [1, 2]
          else lead redirected (usualOf direction) channel
    | _ =>
      tell (target.raw ++ ": ambiguous redirect")
      return none

/-- Carries out redirections, and gives back the descriptors that lead elsewhere for them and whether
    all of them were possible. -/
def all (carrier : Carrier) (fuel : Nat) : List Redirect → Effect (List Nat × Bool)
  | [] => return ([], true)
  | first :: rest => do
    match ← one carrier fuel first with
    | none => return ([], false)
    | some numbers =>
      let (more, possible) ← all carrier fuel rest
      return (numbers ++ more, possible)

/-- Lets descriptors lead again to where they led before. -/
def undo (before : State) (numbers : List Nat) : Effect Unit := do
  numbers.forM fun n => direct n (before.channelOf n)
  if !numbers.isEmpty then sweep

/-- Carries out an effect with redirections, or something else if they are not possible. -/
def withAll (carrier : Carrier) (fuel : Nat) (redirects : List Redirect)
    (otherwise effect : Effect Unit) : Effect Unit := do
  if redirects.isEmpty then effect
  else
    let before ← state
    -- What the descriptors led to stays open meanwhile.
    change fun s => { s with held := before.channels }
    let (numbers, possible) ← all carrier fuel redirects
    let stop ← if possible then caught effect else pure none
    change fun s => { s with held := before.held }
    undo before numbers
    stop.forM throw
    if !possible then otherwise

end Redirecting
end Extended
end Shell
end SuiteCoverage
