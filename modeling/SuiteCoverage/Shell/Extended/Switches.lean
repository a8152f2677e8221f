import SuiteCoverage.Text.Column
import SuiteCoverage.Shell.Extended.Declaring

/-!
# Switches of the extended shell

What can be turned on and off. The older switches have letters, most of them, and are set by `set`;
the others have names only.
-/

set_option autoImplicit false

namespace SuiteCoverage
namespace Shell
namespace Extended
namespace Switches

open Effect

/-- A line that tells whether a switch is set. -/
def row (own : Own) (name : String) : String :=
  Text.padRight 15 name ++ "\t" ++ (if own.has name then "on" else "off") ++ "\n"

/-- The command that sets one of the older switches as it is. -/
def olderCommand (own : Own) (name : String) : String :=
  "set " ++ (if own.has name then "-o " else "+o ") ++ name ++ "\n"

/-- The command that sets one of the other switches as it is. -/
def newerCommand (own : Own) (name : String) : String :=
  "shopt " ++ (if own.has name then "-s " else "-u ") ++ name ++ "\n"

/-- Turns a switch on or off. -/
def turn (name : String) (isOn : Bool) : Effect Unit := changeOwn fun own => own.turn name isOn

/-- The name of a switch with a letter. -/
def nameOf? (letter : Char) : Option String :=
  (Expansion.switchLetters.find? fun entry => entry.2 == letter).map (·.1)

/-- Refuses an option. -/
def refuse {α : Type} (sign letter : Char) : Effect α := do
  object (String.ofList [sign, letter] ++ ": invalid option")
  refuseUsage

/-- Turns the switches of letters on or off. `more` are the words that follow; what is left of them
    is given back. -/
def turnAll (sign : Char) : List Char → List String → Effect (List String)
  | [], more => return more
  | 'o' :: letters, more => do
    match more with
    | [] =>
      let own := (← state).own
      older.forM fun name => say (if sign = '-' then row own name else olderCommand own name)
      turnAll sign letters []
    | name :: more =>
      if older.contains name then turn name (sign == '-')
      else
        object (name ++ ": invalid option name")
        failWith misuse
      turnAll sign letters more
  | letter :: letters, more => do
    match nameOf? letter with
    | some name => turn name (sign == '-')
    | none => refuse sign letter
    turnAll sign letters more

/-- Whether there is a word with an option that there is not. -/
def flawOf? : Nat → List String → Option (Char × Char)
  | 0, _ => none
  | _, [] => none
  | fuel + 1, word :: rest =>
    match word.toList with
    | ['-'] => none
    | ['-', '-'] => none
    | ['+'] => none
    | sign :: letters =>
      if sign = '-' ∨ sign = '+' then
        match letters.find? fun c => c != 'o' && (nameOf? c).isNone with
        | some letter => some (sign, letter)
        | none => flawOf? fuel (rest.drop (if letters.contains 'o' then 1 else 0))
      else none
    | [] => none

/-- Sets switches, and the arguments of the script if any are given. -/
def apply : Nat → List String → Effect Unit
  | 0, _ => pure ()
  | _, [] => pure ()
  | fuel + 1, word :: rest => do
    let become (words : List String) : Effect Unit :=
      change fun s =>
        { s with
          arguments := words
          scan := .start
          own := { s.own with renewals := s.own.renewals + 1 } }
    match word.toList with
    | ['-'] =>
      turn "xtrace" false
      turn "verbose" false
      if !rest.isEmpty then become rest
    | ['-', '-'] => become rest
    | '-' :: letters => apply fuel (← turnAll '-' letters rest)
    | '+' :: letters => apply fuel (← turnAll '+' letters rest)
    | _ => become (word :: rest)

/-- Does what `set` does. -/
def set (arguments : List String) : Effect Unit := do
  if arguments.isEmpty then Declaring.listAll
  else
    match flawOf? (arguments.length + 1) arguments with
    | some (sign, letter) => refuse sign letter
    | none => apply (arguments.length + 1) arguments
  answer true

/-- Does what `shopt` does. -/
def shopt (arguments : List String) : Effect Unit := do
  let (options, names) ← options "psuoq" "" arguments
  let isAsked (c : Char) : Bool := options.any (·.1 == c)
  let known := if isAsked 'o' then older else newer
  let own := (← state).own
  let shown (name : String) : String :=
    if isAsked 'p' then if isAsked 'o' then olderCommand own name else newerCommand own name
    else row own name
  if isAsked 's' && isAsked 'u' then
    object "cannot set and unset shell options simultaneously"
    failWith 1
  else if names.isEmpty then
    let wanted := if isAsked 's' then known.filter own.has
      else if isAsked 'u' then known.filter fun name => !own.has name
      else known
    if !isAsked 'q' then wanted.forM fun name => say (shown name)
    answer true
  else
    let results ← names.mapM fun name => do
      if !known.contains name then
        object (name ++ ": invalid " ++ if isAsked 'o' then "option name" else "shell option name")
        return false
      else if isAsked 's' || isAsked 'u' then
        turn name (isAsked 's')
        return true
      else
        if !isAsked 'q' then say (shown name)
        return own.has name
    answer (results.all id)

end Switches
end Extended
end Shell
end SuiteCoverage
