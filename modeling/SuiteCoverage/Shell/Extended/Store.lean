import SuiteCoverage.Shell.Extended.Printing
import SuiteCoverage.Shell.State

/-!
# Looking variables up

What the names in a script of the extended shell stand for. Some variables are kept by the shell
itself: they tell where the script is, what time it is, or how the last commands went. A variable
may also refer to another one by its name.
-/

set_option autoImplicit false

namespace SuiteCoverage
namespace Shell
namespace Extended

/-- The version of the shell, in parts. -/
def versionParts : List String := ["5", "2", "15", "1", "release", "x86_64-pc-linux-gnu"]

/-- The version of the shell. -/
def version : String := "5.2.15(1)-release"

namespace Store

/-- The time in millionths of a second. -/
def now (s : State) : Int := World.startTime + (s.time : Int)

/-- A number with leading zeros. -/
def padded (width n : Nat) : String :=
  let digits := toString n
  String.ofList (List.replicate (width - digits.length) '0') ++ digits

/-- Whether a function is being carried out. -/
def isInFunction (s : State) : Bool := s.own.calls.any (·.isFunction)

/-- The number of the user that runs the shell. -/
def userNumber : Nat := 1000

/-- The text of the command that is being carried out. -/
def presentText (own : Own) : String :=
  match own.present with
  | .task task => Printing.ofTask own.documents task
  | .part text => text

/-- The variables that are kept by the shell itself. -/
def kept? (s : State) (name : String) : Option Variable :=
  let text (text : String) (attributes : List Char) : Option Variable :=
    some ⟨.text text, attributes⟩
  let texts (texts : List String) : Option Variable := some ⟨.ofTexts texts, ['a']⟩
  match name with
  | "LINENO" => text (toString s.line) []
  | "BASHPID" => text (toString s.process) ['i']
  | "SECONDS" => text (toString ((now s - s.own.start) / 1000000)) ['i']
  | "EPOCHSECONDS" => text (toString (now s / 1000000)) []
  | "EPOCHREALTIME" =>
    let micros := (now s).toNat
    text (toString (micros / 1000000) ++ "." ++ padded 6 (micros % 1000000)) []
  | "BASH_SUBSHELL" => text (toString s.own.level) []
  | "BASH_COMMAND" => text (presentText s.own) []
  | "PIPESTATUS" => texts (s.own.statuses.map fun status => toString status)
  | "DIRSTACK" => texts (s.directory :: s.own.directories)
  | "FUNCNAME" =>
    if isInFunction s then texts (s.own.calls.map Call.name) else some ⟨.nothing, ['a']⟩
  | "BASH_SOURCE" =>
    if s.own.calls.isEmpty then some ⟨.nothing, ['a']⟩
    else texts (s.own.calls.map Call.source)
  | "BASH_LINENO" =>
    if s.own.calls.isEmpty then some ⟨.nothing, ['a']⟩
    else texts (s.own.calls.map fun call => toString call.line)
  | "SHELLOPTS" => text (Switches.listed s.own Switches.older) ['r']
  | "BASHOPTS" => text (Switches.listed s.own Switches.newer) ['r']
  | "GROUPS" => texts [toString userNumber]
  | "_" => text s.own.lastArgument []
  | _ => none

/-- The names of the variables that are kept by the shell itself. -/
def keptNames : List String :=
  ["LINENO", "BASHPID", "SECONDS", "EPOCHSECONDS", "EPOCHREALTIME", "BASH_SUBSHELL",
    "BASH_COMMAND", "PIPESTATUS", "DIRSTACK", "FUNCNAME", "BASH_SOURCE", "BASH_LINENO", "GROUPS",
    "_", "RANDOM", "SRANDOM", "SHELLOPTS", "BASHOPTS"]

/-- The variable that a name itself stands for. Those that the shell keeps may have been taken
    away. -/
def find? (s : State) (name : String) : Option Variable :=
  match s.own.scopes.find? name with
  | some v => some v
  | none => if s.own.disabled.contains name then none else kept? s name

/-- The number that follows a number when numbers are drawn. -/
def drawnAfter (n : Nat) : Nat :=
  let n := if n = 0 then 123459876 else n
  let high := n / 127773
  let low := n % 127773
  let next : Int := 16807 * (low : Int) - 2836 * (high : Int)
  (if next < 0 then next + 2147483647 else next).toNat

/-- Draws numbers until one comes that is not the last one. -/
def drawFrom : Nat → Nat → Nat → Nat × Nat
  | 0, last, seed => (last, seed)
  | fuel + 1, last, seed =>
    let seed := drawnAfter seed
    let n := ((seed >>> 16) ^^^ (seed &&& 65535)) &&& 32767
    if n = last then drawFrom fuel last seed else (n, seed)

/-- The state after a number has been drawn. -/
def draw (s : State) : Nat × State :=
  let (n, seed) := drawFrom 100 s.own.drawn s.own.seed
  (n, { s with own := { s.own with drawn := n, seed } })

/-- The variable that a name itself stands for. Looking may change what is found the next time. -/
def fetch (s : State) (name : String) : Option Variable × State :=
  let isDrawn := (name = "RANDOM" || name = "SRANDOM") && (s.own.scopes.find? name).isNone
    && !s.own.disabled.contains name
  if isDrawn then
    let (n, s) := draw s
    (some ⟨.text (toString n), ['i']⟩, s)
  else (find? s name, s)

/-- What a text names: a variable, and the place in it if there are brackets. -/
structure Target where
  name : String
  place : Option String
deriving DecidableEq, Repr

/-- What a text names. -/
def Target.ofText (text : String) : Target :=
  let chars := text.toList
  let name := chars.takeWhile (· != '[')
  match chars.drop name.length with
  | '[' :: rest =>
    if rest.getLast? == some ']' then ⟨String.ofList name, some (String.ofList rest.dropLast)⟩
    else ⟨text, none⟩
  | _ => ⟨text, none⟩

/-- What a name refers to, through variables that refer to others. -/
def resolveUpTo (s : State) : Nat → Target → Target
  | 0, target => target
  | fuel + 1, target =>
    match s.own.scopes.find? target.name with
    | some v =>
      match v.has 'n', v.value with
      | true, .text text =>
        let next := Target.ofText text
        if text.isEmpty || next.name == target.name then target
        else resolveUpTo s fuel ⟨next.name, target.place.or next.place⟩
      | _, _ => target
    | none => target

/-- What a name refers to. -/
def resolve (s : State) (name : String) : Target := resolveUpTo s 10 ⟨name, none⟩

/-- Whether a variable has a value that it keeps. -/
def isFixed (s : State) (name : String) : Bool := ((find? s name).any fun v => v.has 'r')

/-- The state with other scopes. -/
def withScopes (s : State) (f : Scopes → Scopes) : State :=
  { s with own := { s.own with scopes := f s.own.scopes } }

/-- The state in which a name stands for a variable. What the shell keeps itself is noted where it
    belongs. -/
def put (s : State) (name : String) (v : Variable) : State :=
  let isKept := keptNames.contains name && (s.own.scopes.find? name).isNone
    && !s.own.disabled.contains name
  if isKept then
    match name, v.value with
    | "RANDOM", .text text =>
      { s with own := { s.own with seed := (text.toInt?.getD 0 % 4294967296).toNat, drawn := 0 } }
    | "SECONDS", .text text =>
      { s with own := { s.own with start := now s - text.toInt?.getD 0 * 1000000 } }
    | "BASH_SUBSHELL", _ => s
    | "DIRSTACK", .list entries =>
      { s with own := { s.own with directories := (entries.map (·.2)).drop 1 } }
    | _, _ => s
  else withScopes s fun scopes => scopes.put name v

/-- The variable with a name, or a new one. -/
def variableOr (s : State) (name : String) : Variable := (find? s name).getD ⟨.nothing, []⟩

/-- A place in a variable: a number in a list, or a key in a table. -/
inductive Spot where
  | whole
  | number (n : Nat)
  | key (key : String)
deriving DecidableEq, Repr

/-- The text at a place of a variable. -/
def textAt? (v : Variable) : Spot → Option String
  | .whole => v.value.text?
  | .number n =>
    match v.value with
    | .list entries => Value.atNumber? entries n
    | .table entries => Value.atKey? entries (toString n)
    | .text text => if n = 0 then some text else none
    | .nothing => none
  | .key key =>
    match v.value with
    | .table entries => Value.atKey? entries key
    | _ => none

/-- A variable with a text at a place. -/
def withTextAt (v : Variable) (spot : Spot) (text : String) : Variable :=
  let entries : List (Nat × String) := match v.value with
    | .list entries => entries
    | .text old => [(0, old)]
    | _ => []
  let keyed : List (String × String) := match v.value with
    | .table entries => entries
    | _ => []
  match spot with
  | .whole =>
    if v.has 'A' then { v with value := .table (Value.putKey "0" text keyed) }
    else if v.has 'a' then { v with value := .list (Value.putNumber 0 text entries) }
    else { v with value := .text text }
  | .number n =>
    { v.withAttribute 'a' with value := .list (Value.putNumber n text entries) }
  | .key key => { v.withAttribute 'A' with value := .table (Value.putKey key text keyed) }

/-- The state in which there is a text at a place of a variable. -/
def putAt (s : State) (name : String) (spot : Spot) (text : String) : State :=
  put s name (withTextAt (variableOr s name) spot text)

/-- The state in which a variable has a text, whatever it was before. -/
def putText (s : State) (name text : String) : State := putAt s name .whole text

/-- The text of a variable. -/
def textOf? (s : State) (name : String) : Option String :=
  let target := resolve s name
  (find? s target.name).bind fun v =>
    match target.place with
    | none => v.value.text?
    | some place =>
      if v.has 'A' then textAt? v (.key place)
      else (place.toNat?).bind fun n => textAt? v (.number n)

/-- The state in which a name stands for nothing. -/
def erase (s : State) (name : String) : State :=
  let isKept := keptNames.contains name && (s.own.scopes.find? name).isNone
  if isKept then { s with own := { s.own with disabled := name :: s.own.disabled } }
  else withScopes s fun scopes => scopes.erase name

end Store
end Extended
end Shell
end SuiteCoverage
