import SuiteCoverage.Shell.Options
import SuiteCoverage.Shell.Quoting

/-!
# Aliases of a script

A script makes and removes aliases and shows those there are. They are shown in the order of the
table that they are kept in, which depends on the characters of their names.
-/

set_option autoImplicit false

namespace SuiteCoverage
namespace Shell

/-- The place of a name in a table with a number of places. -/
def tablePlace (size : Nat) (name : String) : Nat :=
  let sum := (name.toList.map Char.toNat).foldl (· + ·) 0
  ((name.toList.head?.elim 0 Char.toNat) * 16 + sum) % size

/-- Entries in the order of a table in which entries at the same place follow each other as they
    came. -/
def inTableOrder (size : Nat) (entries : List (String × String)) : List (String × String) :=
  entries.mergeSort fun a b => tablePlace size a.1 ≤ tablePlace size b.1

namespace Alias

open Effect

/-- The size of the table of aliases. -/
def tableSize : Nat := 39

/-- An alias as it is shown. -/
def shown (name text : String) : String :=
  name ++ "=" ++ Quoting.quoted text

/-- Makes an alias, in place of another of that name. -/
def make (name text : String) : Effect Unit :=
  change fun s =>
    { s with
      aliases :=
        if s.aliases.any fun entry => entry.1 == name then
          s.aliases.map fun entry => if entry.1 == name then (name, text) else entry
        else s.aliases ++ [(name, text)] }

/-- The alias that a script stands behind a name, if the argument of a command makes one. The first
    character is part of the name whatever it is. -/
def made? (argument : String) : Option (String × String) :=
  match argument.toList with
  | [] => none
  | c :: rest =>
    let name := rest.takeWhile (· != '=')
    match rest.drop name.length with
    | [] => none
    | _ :: text => some (String.ofList (c :: name), String.ofList text)

/-- What an alias stands for. -/
def meaning? (s : State) (name : String) : Option String :=
  (s.aliases.find? fun entry => entry.1 == name).map (·.2)

/-- Makes aliases, or shows them. -/
def aliases (arguments : List String) : Effect Unit := do
  let s ← state
  if arguments.isEmpty then
    (inTableOrder tableSize s.aliases).forM fun entry => say (shown entry.1 entry.2 ++ "\n")
  let results ← arguments.mapM fun argument => do
    match made? argument, meaning? (← state) argument with
    | some (name, text), _ =>
      make name text
      return true
    | none, some text =>
      say (shown argument text ++ "\n")
      return true
    | none, none =>
      complain ("alias: " ++ argument ++ " not found")
      return false
  setStatus (if results.all id then 0 else 1)

/-- Removes aliases. -/
def unalias (arguments : List String) : Effect Unit := do
  let (options, names) ← optionsOf ['a'] [] arguments
  if !options.isEmpty then
    change fun s => { s with aliases := [] }
    setStatus 0
  else
    let results ← names.mapM fun name => do
      let isThere := (meaning? (← state) name).isSome
      if !isThere then complain ("unalias: " ++ name ++ " not found")
      change fun s => { s with aliases := s.aliases.filter fun entry => entry.1 != name }
      return isThere
    setStatus (if results.all id then 0 else 1)

end Alias
end Shell
end SuiteCoverage
