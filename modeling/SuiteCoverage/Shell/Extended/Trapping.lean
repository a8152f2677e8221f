import SuiteCoverage.Shell.Extended.Setting
import SuiteCoverage.Text.Column

/-!
# Arrangements of the extended shell

What is carried out when a signal is received, at the end of the shell, and besides before every
command, after a command that has failed and after a function. These occasions have names and are
numbered behind the signals.
-/

set_option autoImplicit false

namespace SuiteCoverage
namespace Shell
namespace Extended
namespace Trapping

open Effect

/-- The numbers of the occasions that are no signals. -/
def atEnd : Nat := 0
def beforeCommand : Nat := 65
def afterFailure : Nat := 66
def afterFunction : Nat := 67

/-- The names of the occasions that are no signals. -/
def occasions : List (Nat × String) :=
  [(atEnd, "EXIT"), (beforeCommand, "DEBUG"), (afterFailure, "ERR"), (afterFunction, "RETURN")]

/-- The name of a signal or another occasion. -/
def name (number : Nat) : String :=
  match occasions.find? fun entry => entry.1 == number with
  | some entry => entry.2
  | none => "SIG" ++ Signal.shortName number

/-- Whether there is a signal with a number. -/
def isSignal (number : Nat) : Bool := 0 < number && number ≤ Signal.last && number != 32 &&
  number != 33

/-- The signal or another occasion that a text calls. -/
def ofText? (text : String) : Option Nat :=
  match occasions.find? fun entry => entry.2 == text.toUpper with
  | some entry => some entry.1
  | none =>
    if !text.isEmpty && text.toList.all Char.isDigit then
      text.toNat?.filter fun n => n = 0 || isSignal n
    else
      let upper := text.toUpper
      let short := if upper.startsWith "SIG" then (upper.drop 3).toString else upper
      (Signal.ofText? 1 short).filter fun n => isSignal n && !short.toList.all Char.isDigit

/-- The command that makes an arrangement. -/
def shown (number : Nat) (text : String) : String :=
  "trap -- " ++ Escape.quoted text ++ " " ++ name number ++ "\n"

/-- Writes all signals in columns. -/
def listSignals : Effect Unit := do
  let numbers := (List.range (Signal.last + 1)).filter isSignal
  let cells := numbers.mapIdx fun n number =>
    let ends := if (n + 1) % 5 = 0 then "\n" else "\t"
    Text.padLeft 2 (toString number) ++ ") " ++ name number ++ ends
  let text := String.join cells
  say (if numbers.length % 5 = 0 then text else text ++ "\n")

/-- Makes an arrangement, or makes none if there is no text. -/
def arrange (text : Option String) (number : Nat) : Effect Unit :=
  change fun s =>
    let others := s.arrangements.filter fun entry => entry.1 != number
    { s with
      arrangements := (text.map (number, ·)).toList ++ others
      own := { s.own with formerArrangements := [] } }

/-- Makes an arrangement for names, and tells whether all of them are known. -/
def arrangeAll (text : Option String) (names : List String) : Effect Bool := do
  let results ← names.mapM fun name => do
    match ofText? name with
    | some number =>
      if !(← state).ignored.contains number || number = 0 then arrange text number
      return true
    | none =>
      object (name ++ ": invalid signal specification")
      return false
  return results.all id

/-- What is arranged for a signal as far as it is shown: in a part of a shell, what the shell has
    arranged, until the part makes an arrangement of its own. -/
def shownFor? (s : State) (number : Nat) : Option String :=
  match s.own.formerArrangements.find? fun entry => entry.1 == number with
  | some entry => some entry.2
  | none => s.arrangement? number

/-- Does what `trap` does. -/
def trap (arguments : List String) : Effect Unit := do
  let (options, words) ← options "lp" "" arguments
  let isAsked (c : Char) : Bool := options.any (·.1 == c)
  let show_ (numbers : List Nat) : Effect Unit := do
    let s ← state
    numbers.forM fun number => (shownFor? s number).forM fun text => say (shown number text)
  if isAsked 'l' then
    listSignals
    answer true
  else if words.isEmpty then
    show_ (List.range (afterFunction + 1))
    answer true
  else if isAsked 'p' then
    let results ← words.mapM fun word => do
      match ofText? word with
      | some number =>
        show_ [number]
        return true
      | none =>
        object (word ++ ": invalid signal specification")
        return false
    answer (results.all id)
  else
    match words with
    | [] => answer true
    | first :: rest =>
      let isNumber := !first.isEmpty && first.toList.all Char.isDigit && (ofText? first).isSome
      if isNumber then answer (← arrangeAll none words)
      else if rest.isEmpty then
        if first != "-" && (ofText? first).isSome then answer (← arrangeAll none words)
        else refuseUsage
      else answer (← arrangeAll (if first = "-" then none else some first) rest)

/-! ## Sending signals -/

/-- What `kill` is to send signals to. -/
inductive Target where
  | process (n : Int)
  | unknown (text : String)
  | noJob (text : String)

/-- Sends a signal to targets, and tells whether that was possible for any. -/
def sendAll (signal : Nat) (targets : List Target) : Effect Bool := do
  let results ← targets.mapM fun target => do
    match target with
    | .process n =>
      if ← sendTo n signal then return true
      object ("(" ++ toString n ++ ") - No such process")
      return false
    | .unknown text =>
      object (text ++ ": arguments must be process or job IDs")
      return false
    | .noJob text =>
      object (text ++ ": no such job")
      return false
  return results.any id

/-- Writes the names of numbers, or the numbers of names. -/
def nameAll (words : List String) : Effect Unit := do
  let results ← words.mapM fun word => do
    match word.toNat? with
    | some n =>
      let number := if 128 < n then n - 128 else n
      if number = 0 then
        say "EXIT\n"
        return true
      if isSignal number then
        say ((name number).drop 3 |>.toString |> (· ++ "\n"))
        return true
    | none =>
      if let some number := ofText? word then
        say (toString number ++ "\n")
        return true
    object (word ++ ": invalid signal specification")
    return false
  answer (results.all id)

/-- Does what `kill` does; `targetOf` tells what a word stands for. -/
def kill (targetOf : String → Effect Target) (arguments : List String) : Effect Unit := do
  let signalled (name : String) (words : List String) : Effect Unit := do
    match (ofText? name).filter (· ≤ Signal.last) with
    | none => fail (name ++ ": invalid signal specification")
    | some signal =>
      let words := if words.head? == some "--" then words.drop 1 else words
      if words.isEmpty then refuseUsage
      answer (← sendAll signal (← words.mapM targetOf))
  match arguments with
  | [] => refuseUsage
  | "-l" :: words =>
    if words.isEmpty then
      listSignals
      answer true
    else nameAll words
  | "-L" :: words =>
    if words.isEmpty then
      listSignals
      answer true
    else nameAll words
  | "-s" :: rest =>
    match rest with
    | [] => fail "-s: option requires an argument"
    | name :: words => signalled name words
  | "-n" :: rest =>
    match rest with
    | [] => fail "-n: option requires an argument"
    | name :: words => signalled name words
  | "--" :: words => signalled "TERM" words
  | "-?" :: _ => refuseUsage
  | first :: rest =>
    if first.startsWith "-" then signalled (first.drop 1).toString rest
    else signalled "TERM" arguments

end Trapping
end Extended
end Shell
end SuiteCoverage
