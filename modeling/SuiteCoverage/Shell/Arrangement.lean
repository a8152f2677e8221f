import SuiteCoverage.Shell.Options
import SuiteCoverage.Shell.Process
import SuiteCoverage.Shell.Quoting

/-!
# Arrangements

A script arranges what is to be carried out when it receives a signal or comes to its end, and
sends signals to processes.
-/

set_option autoImplicit false

namespace SuiteCoverage
namespace Shell
namespace Arrangement

open Effect

/-- The command that makes an arrangement. -/
def shown (signal : Nat) (text : String) : String :=
  "trap -- " ++ Quoting.quoted text ++ " " ++ Signal.shortName signal ++ "\n"

/-- Writes the commands that make the arrangements there are. -/
def print : Effect Unit := do
  let s ← state
  (List.range (Signal.last + 1)).forM fun signal =>
    (s.arrangement? signal).forM fun text => say (shown signal text)
  setStatus 0

/-- Makes an arrangement for signals, or makes none if there is no text. -/
def make (text : Option String) : List String → Effect Unit
  | [] => setStatus 0
  | name :: rest =>
    match Signal.ofText? 0 name with
    | none => do
      complain ("trap: " ++ name ++ ": bad trap")
      setStatus 1
    | some signal => do
      change fun s =>
        let others := s.arrangements.filter fun entry => entry.1 != signal
        { s with arrangements := (text.map (signal, ·)).toList ++ others }
      make text rest

/-- Makes arrangements, or shows those there are. -/
def trap (arguments : List String) : Effect Unit := do
  let words ← operandsOf arguments
  match words with
  | [] => print
  | [name] => make none [name]
  | first :: rest =>
    if !first.isEmpty && first.toList.all Char.isDigit && (Signal.ofText? 0 first).isSome then
      make none words
    else make (if first == "-" then none else some first) rest

/-! ## Sending signals -/

/-- Tells that a command to send a signal is not right. -/
def object (complaint : String) : Effect Unit := do
  protest complaint
  setStatus misuse

/-- How the command is to be used. -/
def usage : String :=
  "Usage: kill [-s sigspec | -signum | -sigspec] [pid | job]... or\nkill -l [exitstatus]"

/-- Sends a signal to processes; `failed` tells whether one was not there so far. -/
def sendAll (signal : Nat) : Bool → List String → Effect Unit
  | failed, [] => setStatus (if failed then 1 else 0)
  | failed, target :: rest =>
    match Arithmetic.decimal? target with
    | none => object ("Illegal number: " ++ target)
    | some process => do
      if ← sendTo process signal then sendAll signal failed rest
      else
        protest "No such process\n"
        sendAll signal true rest

/-- Writes the names of signals. -/
def list : List String → Effect Unit
  | [] => do
    say "0\n"
    (List.range' 1 Signal.last).forM fun signal => say (Signal.shortName signal ++ "\n")
    setStatus 0
  | text :: _ =>
    match text.toNat? with
    | none => object ("Illegal number: " ++ text)
    | some number =>
      let signal := if 128 < number then number - 128 else number
      if 0 < signal && signal ≤ Signal.last then do
        say (Signal.shortName signal ++ "\n")
        setStatus 0
      else object ("invalid signal number or exit status: " ++ text)

/-- Sends a signal, the usual one unless another is named. -/
def kill (arguments : List String) : Effect Unit :=
  let signalled (signal : Nat) (targets : List String) : Effect Unit :=
    if targets.isEmpty then object usage else sendAll signal false targets
  let named (name : String) (targets : List String) : Effect Unit :=
    match Signal.ofText? 1 name with
    | some signal => signalled signal targets
    | none => object ("invalid signal number or name: " ++ name)
  match arguments with
  | [] => object usage
  | first :: rest =>
    match first.toList with
    | '-' :: letters =>
      match Signal.ofText? 1 (String.ofList letters), letters with
      | some signal, _ => signalled signal rest
      | none, ['l'] => list rest
      | none, ['s'] =>
        match rest with
        | [] => object "No arg for -s option"
        | name :: targets => named name targets
      | none, 's' :: name => named (String.ofList name) rest
      | none, ['-'] => signalled 15 rest
      | none, 'l' :: c :: _ => object ("Illegal option -" ++ String.singleton c)
      | none, c :: _ => object ("Illegal option -" ++ String.singleton c)
      | none, [] => object ("Illegal number: " ++ first)
    | _ => signalled 15 arguments

end Arrangement
end Shell
end SuiteCoverage
