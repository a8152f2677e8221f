import SuiteCoverage.Executable
import SuiteCoverage.Shell.Builtin
import SuiteCoverage.Shell.Reader

/-!
# Meanings of words

The first word of a command can be the name of a function, of a command of the shell or of a
program, which is looked for in the directories that the environment lists.
-/

set_option autoImplicit false

namespace SuiteCoverage
namespace Shell

open Effect

/-- Where a script looks for what the first word of a command names. -/
structure Sought where
  /-- Whether it may be a function. -/
  functions : Bool
  /-- The directories to look for programs in, if not those that the script lists. -/
  places : Option String

namespace Sought

/-- Where a script usually looks. -/
def anywhere : Sought := ⟨true, none⟩

/-- The directories in which programs are looked for if a script does not want to rely on its own
    list. -/
def standardPlaces : String := "/usr/local/sbin:/usr/local/bin:/usr/sbin:/usr/bin:/sbin:/bin"

end Sought

/-- The directories in which a script looks for programs. -/
def listedPlaces (s : State) : String := (valueOf s "PATH").getD ""

/-- The paths that a name can have in listed directories. -/
def pathsIn (places name : String) : List Pathname :=
  (World.directoriesOf (toText places)).map (·.join ⟨toText name⟩)

/-- Whether a path leads to a program or to a file that may be executed. -/
def isProgram (w : World) (p : Pathname) : Bool :=
  match w.stat p with
  | .ok node => node.isRegular && node.isExecutable
  | .error _ => false

/-- The file with a name in the directories in which programs are looked for, or at a path. -/
def scriptFile? (s : State) (name : String) : Option Pathname :=
  if name.toList.contains '/' then some ⟨toText name⟩
  else
    (pathsIn (listedPlaces s) name).find? fun p =>
      match s.world.stat p with
      | .ok node => node.isRegular
      | .error _ => false

/-- The commands of the shell that run other commands or tell what they are. -/
def runners : List String := ["eval", "command", "exec", ".", "type", "hash"]

/-- What the first word of a command can mean. -/
inductive Meaning where
  | keyword
  | aliased (text : String)
  | function
  | special
  | builtin
  /-- A program that had been looked for before. -/
  | tracked (path : String)
  | program (path : String)
  | nothing
deriving DecidableEq

namespace Meaning

/-- What a word means in a script, with programs in some directories or in those it lists. -/
def of (s : State) (places : Option String) (word : String) : Meaning :=
  if Reader.reserved.contains word then .keyword
  else
    match Alias.meaning? s word with
    | some text => .aliased text
    | none =>
      if Builtin.special.contains word then .special
      else if s.functions.any fun entry => entry.1 == word then .function
      else if runners.contains word || (Builtin.find? word []).isSome then .builtin
      else if word.toList.contains '/' then
        if s.world.pathExists ⟨toText word⟩ then .program word else .nothing
      else
        match s.tracked.find? fun entry => places.isNone && entry.1 == word with
        | some entry => .tracked entry.2
        | none =>
          let paths := pathsIn (places.getD (listedPlaces s)) word
          match paths.find? (isProgram s.world) with
          | some p => .program (ofText p.spelling)
          | none => .nothing

/-- What a word means, as briefly as possible. -/
def short (word : String) : Meaning → Option String
  | nothing => none
  | aliased text => some ("alias " ++ Alias.shown word text)
  | tracked path => some path
  | program path => some path
  | _ => some word

/-- What a word means, in a sentence. -/
def long (word : String) : Meaning → String
  | keyword => word ++ " is a shell keyword"
  | aliased text => word ++ " is an alias for " ++ text
  | function => word ++ " is a shell function"
  | special => word ++ " is a special shell builtin"
  | builtin => word ++ " is a shell builtin"
  | tracked path => word ++ " is a tracked alias for " ++ path
  | program path => word ++ " is " ++ path
  | nothing => word ++ ": not found"

/-- Keeps the path of a program that was looked for and found. -/
def track (s : State) (word : String) : State :=
  match of { s with aliases := [] } none word with
  | .program path =>
    if path == word then s else { s with tracked := s.tracked ++ [(word, path)] }
  | _ => s

/-- Tells what words mean, in sentences or as briefly as possible. -/
def describe (places : Option String) (inSentences : Bool) (words : List String) :
    Effect Unit := do
  let results ← words.mapM fun word => do
    let s ← state
    let meant := of s places word
    let text := if inSentences then some (meant.long word) else meant.short word
    text.forM fun text => say (text ++ "\n")
    if places.isNone then change fun s => track s word
    return meant != .nothing
  setStatus (if results.all id then 0 else 127)

/-- The size of the table of programs that have been found. -/
def tableSize : Nat := 31

/-- Looks for programs, or shows the paths of those that have been found. -/
def hash (arguments : List String) : Effect Unit := do
  let (options, names) ← optionsOf ['r'] [] arguments
  if !options.isEmpty then
    change fun s => { s with tracked := [] }
    setStatus 0
  else
    if names.isEmpty then
      (inTableOrder tableSize (← state).tracked).forM fun entry => say (entry.2 ++ "\n")
    let results ← names.mapM fun name => do
      change fun s =>
        track { s with tracked := s.tracked.filter fun entry => entry.1 != name } name
      let s ← state
      let isFound := name.toList.contains '/' || of { s with aliases := [] } none name != .nothing
      if !isFound then protest (name ++ ": not found")
      return isFound
    setStatus (if results.all id then 0 else 1)

end Meaning

/-- Why a program was not run, in a word, and the status for that. -/
def notRun (fault : Fault) : String × Nat :=
  match fault with
  | .permissionDenied => ("Permission denied", 126)
  | .notFound => ("not found", 127)
  | .notADirectory => ("not found", 127)
  | other => (other.reason, 127)

/-- Tells that a program named in a script was not run, and gives back the status for that. -/
def protestNotRun (name : String) (fault : Fault) : Effect Nat := do
  let (reason, status) := notRun fault
  protest (name ++ ": " ++ reason)
  return status

end Shell
end SuiteCoverage
