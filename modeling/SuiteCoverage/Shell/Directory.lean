import SuiteCoverage.Shell.Options

/-!
# The directory of a script

A script keeps the path on which it has got to the directory that it works in, links and all. A
path that it goes by from there is put behind the other by name alone, so that `..` leads back
through the link that led to where it stands. Programs that it starts are told the path by the
environment, and keep it if it still leads to their directory.
-/

set_option autoImplicit false

namespace SuiteCoverage
namespace Shell
namespace Directory

open Effect

/-- The names on the way of a path that is put behind others, which come last first. -/
def named : List String → List (List Char) → List String
  | names, [] => names
  | names, piece :: rest =>
    if piece = [] ∨ piece = ['.'] then named names rest
    else if piece = ['.', '.'] then named (names.drop 1) rest
    else named (String.ofList piece :: names) rest

/-- The start of an absolute path: two separators are kept, more of them count as one. -/
def rootOf : List Char → String
  | '/' :: '/' :: '/' :: _ => "/"
  | '/' :: '/' :: _ => "//"
  | _ => "/"

/-- A path as seen from a directory, without steps that stay or ascend. -/
def joined (directory target : String) : String :=
  let pieces := Pathname.pieces target.toList
  if target.toList.head? == some '/' then
    rootOf target.toList ++ "/".intercalate (named [] pieces).reverse
  else
    let names := named [] (Pathname.pieces directory.toList)
    rootOf directory.toList ++ "/".intercalate (named names pieces).reverse

/-- The path of the directory worked in as the system knows it; empty if it knows none. -/
def physical (w : World) : String :=
  match w.currentDirectory with
  | .ok p => ofText p.spelling
  | .error _ => ""

/-- What is wrong if the system knows no path of the directory worked in. -/
def unknown : String := "getcwd() failed: No such file or directory"

/-- Whether a path leads to the directory worked in. -/
def leadsHere (w : World) (p : String) : Bool :=
  match w.locate .through ⟨toText p⟩ with
  | .ok (.present loc node) =>
    node.isDirectory && !w.cwd.isRemoved && w.cwd.standing == loc
  | _ => false

/-- Notes the path of the directory worked in. -/
def note (directory : String) : Effect Unit := do
  change fun s => { s with directory }
  assign "PWD" directory
  exportName "PWD"

/-- Finds out the path of the directory worked in, when the script starts. -/
def start : Effect Unit := do
  let s ← state
  match (valueOf s "PWD").filter fun p => p.toList.head? == some '/' && leadsHere s.world p with
  | some p => note p
  | none =>
    let p := physical s.world
    if p.isEmpty then complain ("sh: 0: " ++ unknown)
    note p

/-- Notes that the script has gone to another directory. -/
def moved (directory : String) : Effect Unit := do
  let s ← state
  assign "OLDPWD" s.directory
  exportName "OLDPWD"
  if directory.isEmpty then
    let p := physical s.world
    if p.isEmpty then protest unknown
    note p
  else note directory

/-- Whether links are to be followed right away, and the other arguments. The last of the options
    counts. -/
def isPhysicalFor (arguments : List String) : Effect (Bool × List String) := do
  let (options, rest) ← optionsOf ['L', 'P'] [] arguments
  return (options.getLast?.any (·.1 == 'P'), rest)

/-- Goes to a directory. -/
def goTo (isPhysical : Bool) (target : String) : Effect Unit := do
  let s ← state
  let directory :=
    if isPhysical || (s.directory.isEmpty && target.toList.head? != some '/') then ""
    else joined s.directory target
  match s.world.changeDirectory ⟨toText (if directory.isEmpty then target else directory)⟩ with
  | .ok world =>
    change fun s => { s with world }
    moved directory
    setStatus 0
  | .error _ =>
    giveUp ("can't cd to " ++ target)

/-- Goes to another directory, or back. -/
def change (arguments : List String) : Effect Unit := do
  let s ← state
  let (isPhysical, rest) ← isPhysicalFor arguments
  match rest with
  | "-" :: _ =>
    goTo isPhysical ((valueOf s "OLDPWD").filter (!·.isEmpty) |>.getD ".")
    say ((← state).directory ++ "\n")
  | target :: _ => goTo isPhysical (if target.isEmpty then "." else target)
  | [] => goTo isPhysical ((valueOf s "HOME").filter (!·.isEmpty) |>.getD ".")

/-- Writes the path of the directory worked in. -/
def print (arguments : List String) : Effect Unit := do
  let s ← state
  let (isPhysical, _) ← isPhysicalFor arguments
  let p := if isPhysical then physical s.world else s.directory
  if isPhysical && p.isEmpty then protest unknown
  say (p ++ "\n")
  setStatus 0

end Directory
end Shell
end SuiteCoverage
