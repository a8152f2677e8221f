import SuiteCoverage.Shell.Extended.Lookup
import SuiteCoverage.Shell.Utility.Launching

/-!
# Programs that the extended shell runs

A program is looked for by its name, and is started with the variables and functions that are meant
for programs. A file that says nothing about its interpreter is a script for the shell itself,
unless its first line is no text. What executing a program does is told from outside.
-/

set_option autoImplicit false

namespace SuiteCoverage
namespace Shell
namespace Extended
namespace Programs

open Effect
open Utility (Launcher)

/-- The environment that a program is started with that was found at a path. -/
def environmentFor (s : State) (path : String) : List (String × String) :=
  let exported := s.own.scopes.visible.filterMap fun (name, v) =>
    match v.value with
    | .text text => if v.has 'x' && name != "_" then some (name, text) else none
    | _ => none
  let functions := s.own.functions.filterMap fun (name, f) =>
    if f.isExported then
      some ("BASH_FUNC_" ++ name ++ "%%", Printing.ofPassedFunction s.own.documents f.body)
    else none
  exported ++ functions ++ [("_", path)]

/-- Becomes a program that was found at a path. -/
def become (launcher : Launcher) (path : String) (invocation : Invocation) : Effect Unit := do
  change fun s =>
    let values := environmentFor s path
    { s with values, exported := values.map (·.1), dialect := none }
  launcher invocation

/-- Whether the first line of a text is none that a script can have. -/
def isBinary (content : ByteArray) : Bool :=
  ((content.extract 0 80).toList.takeWhile (· != 0x0A)).contains 0

/-- The interpreter that the file at a path names. -/
def interpreterAt? (s : State) (path : String) : Option String :=
  match s.world.readBytes ⟨toText path⟩ with
  | .ok content => (World.interpreter? content).map (·.1)
  | .error _ => none

/-- Tells why the file at a path cannot be executed, and gives back the status for that. -/
def refuse (path : String) (fault : Fault) : Effect Nat := do
  let s ← state
  let p : Pathname := ⟨toText path⟩
  let isDirectory : Bool := match s.world.stat p with
    | .ok node => node.isDirectory
    | .error _ => false
  if isDirectory then
    object (path ++ ": Is a directory")
    return 126
  if !isProgram s.world p then
    object (path ++ ": " ++ fault.reason)
    return if fault = .notFound then 127 else 126
  if fault = .notFound then
    object (path ++ ": cannot execute: required file not found")
    return 127
  match interpreterAt? s path with
  | some interpreter =>
    let name := s.runner.elim "" (· ++ ": ")
    let shown := if interpreter.endsWith "\r" then (interpreter.dropEnd 1).toString ++ "^M"
      else interpreter
    complain (speaker s ++ ": " ++ name ++ path ++ ": " ++ ofText shown ++ ": bad interpreter: "
      ++ fault.reason)
  | none => object (path ++ ": " ++ fault.reason)
  return 126

/-- Becomes the program at a path, which is called by a name; if that cannot be, the process ends
    with the status for that. -/
def execute (launcher : Launcher) (path name : String) (arguments : List String) :
    Effect Unit := do
  let s ← state
  let p : Pathname := ⟨toText path⟩
  let given := arguments.map toText
  match s.world.execute World.interpreterLimit (toText name) p given with
  | .ok invocation => become launcher path invocation
  | .error .formatUnknown =>
    match s.world.readBytes p with
    | .ok content =>
      if isBinary content then
        object (path ++ ": cannot execute binary file: Exec format error")
        throw (.exit 126)
      become launcher path ⟨.system "bash", "/bin/bash", toText path :: given⟩
    | .error fault => throw (.exit (← refuse path fault))
  | .error fault => throw (.exit (← refuse path fault))

/-- The path of the program with a name. It is kept, if it is looked for in the usual directories. -/
def search (isUsual : Bool) (directories name : String) : Effect (Option String) := do
  let s ← state
  if name.toList.contains '/' then return some name
  match Lookup.kept? s name with
  | some path =>
    if isUsual then
      Lookup.count name
      return some path
    else return Lookup.path? s directories name
  | none =>
    let found := Lookup.path? s directories name
    if isUsual && s.own.has "hashall" then
      found.forM fun path => do
        if isProgram s.world ⟨toText path⟩ && path.toList.contains '/' then Lookup.keep name path 1
    return found

end Programs
end Extended
end Shell
end SuiteCoverage
