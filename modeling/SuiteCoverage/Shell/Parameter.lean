import SuiteCoverage.Shell.Field
import SuiteCoverage.Shell.Home
import SuiteCoverage.Shell.Variable
import SuiteCoverage.Shell.Options

/-!
# Parameters

What a parameter of a script stands for: a variable, an argument of the script, or something
about the script itself that has a character for a name.
-/

set_option autoImplicit false

namespace SuiteCoverage
namespace Shell
namespace Parameter

open Effect

/-- The characters that divide fields. -/
def dividers (s : State) : List Char :=
  ((valueOf s "IFS").getD Field.usualDividers).toList

/-- What stands between fields that are made one text. -/
def divider (s : State) : String :=
  String.ofList ((dividers s).take 1)

/-- The value of a parameter; `none` if it is not set. -/
def value? (s : State) (name : String) : Option String :=
  match name with
  | "#" => some (toString s.arguments.length)
  | "?" => some (toString s.status)
  | "$" => some (toString s.shell)
  | "-" => some (Switch.shown s.switches)
  | "!" => s.lastDetached.map toString
  | "0" => some s.self
  | "@" => some (" ".intercalate s.arguments)
  | "*" => some ((divider s).intercalate s.arguments)
  | name =>
    match name.toNat? with
    | some n => s.arguments[n - 1]?
    | none => valueOf s name

/-- The cells of a parameter as it is. The arguments of a script are fields of their own unless
    they are asked for as one text. -/
def cells (s : State) (name : String) (quoted : Bool) : List Cell :=
  if name == "@" || (name == "*" && !quoted) then
    [Cell.border].intercalate (s.arguments.map fun a => Cell.ofValue a quoted)
  else Cell.ofValue ((value? s name).getD "") quoted

/-- Cells that take the place of a value are divided like a value. -/
def asValue (cells : List Cell) : List Cell :=
  cells.map fun
    | .plain c => .value c
    | cell => cell

/-- The value of a parameter, which is empty if the parameter is not set. The script may have
    said that it wants no such parameters. -/
def expected (name : String) : Effect String := do
  let s ← state
  match value? s name with
  | some value => return value
  | none =>
    if isSet s 'u' && name != "@" && name != "*" then giveUp (name ++ ": parameter not set")
    return ""

/-- The directory of the user with a name; without one, of whoever runs the script. -/
def directoryOf (s : State) (user : String) : Option String :=
  if user.isEmpty then valueOf s "HOME"
  else (Home.users.find? fun entry => entry.1 == user).map (·.2)

end Parameter
end Shell
end SuiteCoverage
