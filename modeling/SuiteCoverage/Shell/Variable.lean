import SuiteCoverage.Shell.Traffic

/-!
# Variables

The variables of a script: their values, which of them programs see, and which of them keep their
values. Some of them mean something to the shell itself.
-/

set_option autoImplicit false

namespace SuiteCoverage
namespace Shell
namespace Effect

open State

/-- The value of a variable. -/
def valueOf (s : State) (name : String) : Option String :=
  s.values.get? name

/-- Lets programs see a variable. -/
def exportName (name : String) : Effect Unit :=
  change fun s =>
    if s.exported.contains name then s else { s with exported := name :: s.exported }

/-- Whether a text can be the name of a variable. -/
def isName (text : String) : Bool :=
  text.toList.head?.any (fun c => c.isAlpha || c == '_')
    && text.toList.all fun c => c.isAlphanum || c == '_'

/-- Ends the script if a text cannot be the name of a variable. -/
def demandName (text : String) : Effect Unit := do
  if !isName text then giveUp (text ++ ": bad variable name")

/-- Gives a variable a value, whatever its name. -/
def put (name value : String) : Effect Unit :=
  change fun s => { s with values := s.values.set name value }

/-- Does what goes with a new value of a variable. The place at which a search for options goes on
    is given by one, and the programs that have been found so far may not be those that another
    gives. -/
def heed (name value : String) : Effect Unit := do
  if name == "PATH" then change fun s => { s with tracked := [] }
  if name == "OPTIND" then
    match Arithmetic.count? value with
    | some place => change fun s => { s with scan := ⟨max 1 place, none⟩ }
    | none => giveUp ("Illegal number: " ++ value)

/-- Ends the script if a variable keeps its value. -/
def demandFree (name : String) : Effect Unit := do
  if (← state).fixed.contains name then giveUp (name ++ ": is read only")

/-- Gives a variable a value. -/
def assign (name value : String) : Effect Unit := do
  demandName name
  demandFree name
  heed name value
  if isSet (← state) 'a' then exportName name
  put name value

/-- Carries out an effect in the name of a command of the shell. -/
def inNameOf (name : String) (effect : Effect Unit) : Effect Unit := do
  let before := (← state).runner
  change fun s => { s with runner := some name }
  let stop ← caught effect
  change fun s => { s with runner := before }
  stop.forM throw

/-- What a variable is now. -/
def formerOf (s : State) (name : String) : Former :=
  ⟨name, valueOf s name, s.exported.contains name⟩

/-- Gives a variable back what it was. -/
def giveBack (former : Former) : Effect Unit := do
  former.value.forM (heed former.name)
  change fun s =>
    let others := s.exported.filter (· != former.name)
    { s with
      values := s.values.put former.name former.value
      exported := if former.isExported then former.name :: others else others }

/-! ## The environment

A shell keeps its variables in a number of chains. The letters of a name tell the chain it is in,
and the chains one after the other make up the environment. -/

/-- The number of chains. -/
def chainCount : Nat := 39

/-- The chain that a name is in. -/
def chainOf (name : String) : Nat :=
  let codes := name.toList.map Char.toNat
  codes.foldl (· + ·) (codes.headD 0 * 16) % chainCount

/-- The variables that are in front of their chains. -/
def frontNames : List String :=
  ["OPTIND", "PS4", "PS2", "PS1", "PATH", "MAILPATH", "MAIL", "IFS"]

/-- The variables chain by chain. -/
def inChains (values : Environment) : Environment :=
  let front := frontNames.filterMap fun name => values.find? fun entry => entry.1 == name
  let ordered := front ++ values.filter fun entry => !frontNames.contains entry.1
  (List.range chainCount).flatMap fun chain =>
    ordered.filter fun entry => chainOf entry.1 == chain

/-- The environment that programs are started with. -/
def environment (s : State) : Environment :=
  let seen := s.values.filter fun entry => s.exported.contains entry.1
  let ordered := if s.dialect.isSome then inChains seen else seen
  ordered.map fun entry => (toText entry.1, toText entry.2)

end Effect
end Shell
end SuiteCoverage
