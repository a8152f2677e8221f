import SuiteCoverage.Shell.Variable
import SuiteCoverage.Text.Column

/-!
# Options of commands

Arguments of a command that start with a hyphen are letters of options. An option may have a
value: what is left of its argument, or else the next argument. Two hyphens end the options.
-/

set_option autoImplicit false

namespace SuiteCoverage
namespace Shell
namespace Options

/-- What is wrong with the options of a command. -/
inductive Flaw where
  | unknown (letter : Char)
  | valueMissing (letter : Char)
deriving DecidableEq, Repr

/-- What is wrong with options, in words. -/
def Flaw.complaint : Flaw → String
  | .unknown letter => "Illegal option -" ++ String.singleton letter
  | .valueMissing letter => "No arg for -" ++ String.singleton letter ++ " option"

/-- Options by their letters, with their values, and what follows them. -/
abbrev Reading := Except Flaw (List (Char × String) × List String)

/-- Puts an option in front of a reading. -/
def ahead (letter : Char) (value : String) (reading : Reading) : Reading :=
  reading.map fun (options, rest) => ((letter, value) :: options, rest)

/-- Reads the letters of an argument; `next` reads what follows the argument. -/
def letters (plain valued : List Char) (arguments : List String)
    (next : List String → Reading) : List Char → Reading
  | [] => next arguments
  | c :: rest =>
    if plain.contains c then ahead c "" (letters plain valued arguments next rest)
    else if valued.contains c then
      if !rest.isEmpty then ahead c (String.ofList rest) (next arguments)
      else
        match arguments with
        | value :: arguments => ahead c value (next arguments)
        | [] => .error (.valueMissing c)
    else .error (.unknown c)

/-- Reads options from the front of arguments, from as many of them as `count`. -/
def readUpTo (plain valued : List Char) : Nat → List String → Reading
  | 0, arguments => .ok ([], arguments)
  | _, [] => .ok ([], [])
  | count + 1, first :: rest =>
    match first.toList with
    | ['-', '-'] => .ok ([], rest)
    | '-' :: c :: more => letters plain valued rest (readUpTo plain valued count) (c :: more)
    | _ => .ok ([], first :: rest)

/-- Reads options from the front of arguments: those without a value are `plain`, those with one
    `valued`. -/
def read (plain valued : List Char) (arguments : List String) : Reading :=
  readUpTo plain valued arguments.length arguments

end Options

namespace Effect

/-- The options of a command and its other arguments. -/
def optionsOf (plain valued : List Char) (arguments : List String) :
    Effect (List (Char × String) × List String) :=
  match Options.read plain valued arguments with
  | .ok reading => return reading
  | .error flaw => giveUp flaw.complaint

/-- The arguments of a command that has no options. -/
def operandsOf (arguments : List String) : Effect (List String) := do
  return (← optionsOf [] [] arguments).2

end Effect
end Shell
end SuiteCoverage

/-!
## Switches

A shell has switches, which are set when it is started and by its own command. A switch has a
letter or a name or both.
-/

namespace SuiteCoverage
namespace Shell

/-- A change of switches that cannot be made because there is no switch of that kind. -/
inductive UnknownSwitch where
  | letter (c : Char)
  | name (text : String)
deriving DecidableEq, Repr

/-- What is wrong with a change of switches. -/
def UnknownSwitch.complaint : UnknownSwitch → String
  | .letter c => "Illegal option -" ++ String.singleton c
  | .name text => "Illegal option -o " ++ text

namespace Switch

/-- The switches that have a letter, and their names. -/
def names : List (Char × String) :=
  [('e', "errexit"), ('f', "noglob"), ('I', "ignoreeof"), ('i', "interactive"),
    ('m', "monitor"), ('n', "noexec"), ('s', "stdin"), ('x', "xtrace"), ('v', "verbose"),
    ('V', "vi"), ('E', "emacs"), ('C', "noclobber"), ('a', "allexport"), ('b', "notify"),
    ('u', "nounset"), ('p', "privileged")]

/-- The names of the switches that have no letter and mean nothing. -/
def idle : List String := ["nolog", "debug"]

/-- The letters of those switches that are set, as scripts are told. -/
def shown (set : List Char) : String :=
  String.ofList ((names.map (·.1)).reverse.filter set.contains)

/-- Sets or unsets the switch with a letter. -/
def turn (on : Bool) (c : Char) (set : List Char) : List Char :=
  if on then (if set.contains c then set else c :: set) else set.filter (· != c)

/-- Sets or unsets the switch with a letter, if there is one. -/
def turnLetter (on : Bool) (c : Char) (set : List Char) : Except UnknownSwitch (List Char) :=
  if (names.map (·.1)).contains c then .ok (turn on c set) else .error (.letter c)

/-- Sets or unsets the switch with a name, if there is one. -/
def turnName (on : Bool) (name : String) (set : List Char) : Except UnknownSwitch (List Char) :=
  match names.find? fun entry => entry.2 == name with
  | some entry => .ok (turn on entry.1 set)
  | none => if idle.contains name then .ok set else .error (.name name)

/-- The table of the switches, or the commands that set them so. -/
def table (asCommands : Bool) (set : List Char) : String :=
  let line (name : String) (on : Bool) :=
    if asCommands then "set " ++ (if on then "-o " else "+o ") ++ name ++ "\n"
    else Text.padRight 16 name ++ (if on then "on" else "off") ++ "\n"
  let lines := names.map (fun entry => line entry.2 (set.contains entry.1))
    ++ idle.map fun name => line name false
  (if asCommands then "" else "Current option settings\n") ++ String.join lines

end Switch

/-- What the arguments of a shell or of its own command ask for. -/
structure Start where
  /-- The letters of the switches that are set. -/
  switches : List Char
  /-- Whether the first of the words is a script. -/
  hasText : Bool
  /-- Whether the table of the switches is asked for, and whether as commands. -/
  table : Option Bool
  /-- Whether the words are given even if there are none. -/
  divided : Bool
  words : List String

namespace Start

/-- Takes the letters of an argument; the names of switches are taken from what follows it.
    `atStart` tells that a script can be given. -/
def ofLetters (atStart on : Bool) : List Char → Start → Except UnknownSwitch Start
  | [], start => .ok start
  | c :: rest, start =>
    if atStart && c == 'c' then ofLetters atStart on rest { start with hasText := true }
    else if atStart && c == 'l' then ofLetters atStart on rest start
    else if c == 'o' then
      match start.words with
      | [] => ofLetters atStart on rest { start with table := some !on }
      | name :: words =>
        match Switch.turnName on name start.switches with
        | .ok switches => ofLetters atStart on rest { start with switches, words }
        | .error unknown => .error unknown
    else
      match Switch.turnLetter on c start.switches with
      | .ok switches => ofLetters atStart on rest { start with switches }
      | .error unknown => .error unknown

/-- Takes the arguments at the front of the words that are switches, as many as `count`. -/
def ofWords (atStart : Bool) : Nat → Start → Except UnknownSwitch Start
  | 0, start => .ok start
  | count + 1, start =>
    match start.words with
    | [] => .ok start
    | first :: rest =>
      match first.toList with
      | ['-'] =>
        let switches := start.switches.filter fun c => c != 'x' && c != 'v'
        .ok { start with words := rest, switches }
      | ['-', '-'] => .ok { start with words := rest, divided := true }
      | '-' :: letters =>
        (ofLetters atStart true letters { start with words := rest }).bind (ofWords atStart count)
      | '+' :: letters =>
        (ofLetters atStart false letters { start with words := rest }).bind (ofWords atStart count)
      | _ => .ok start

/-- What arguments ask for, with switches that are set already. -/
def ofArguments (atStart : Bool) (set : List Char) (arguments : List String) :
    Except UnknownSwitch Start :=
  ofWords atStart arguments.length ⟨set, false, none, false, arguments⟩

end Start
end Shell
end SuiteCoverage
