import SuiteCoverage.Executable
import SuiteCoverage.Shell.Extended.Declaring
import SuiteCoverage.Shell.Meaning

/-!
# What commands are

The first word of a command may be an alias, a word of the language, a function, a command of the
shell or a program. Programs are looked for in the directories that the environment lists; once one
has been found and run its path is kept.
-/

set_option autoImplicit false

namespace SuiteCoverage
namespace Shell
namespace Extended
namespace Lookup

open Effect

/-- The words of the language. -/
def keywords : List String :=
  ["if", "then", "else", "elif", "fi", "case", "esac", "for", "select", "while", "until", "do",
    "done", "in", "function", "time", "\x7b", "\x7d", "!", "[[", "]]", "coproc"]

/-- The commands of the shell. -/
def builtins : List String :=
  [".", ":", "[", "alias", "bg", "bind", "break", "builtin", "caller", "cd", "command", "compgen",
    "complete", "compopt", "continue", "declare", "dirs", "disown", "echo", "enable", "eval",
    "exec", "exit", "export", "false", "fc", "fg", "getopts", "hash", "help", "history", "jobs",
    "kill", "let", "local", "logout", "mapfile", "popd", "printf", "pushd", "pwd", "read",
    "readarray", "readonly", "return", "set", "shift", "shopt", "source", "suspend", "test",
    "times", "trap", "true", "type", "typeset", "ulimit", "umask", "unalias", "unset", "wait"]

/-- Whether a word is a command of the shell. -/
def isBuiltin (s : State) (name : String) : Bool :=
  builtins.contains name && !s.own.closed.contains name

/-- The function with a name. -/
def function? (s : State) (name : String) : Option Function :=
  (s.own.functions.find? fun entry => entry.1 == name).map (·.2)

/-- The directories in which programs are looked for. -/
def places (s : State) : String := (Store.textOf? s "PATH").getD ""

/-- The paths of the programs with a name in some directories. -/
def programs (s : State) (places name : String) : List String :=
  ((pathsIn places name).filter (isProgram s.world)).map fun p => ofText p.spelling

/-- The path of the program with a name, or of a file with that name that is none. -/
def path? (s : State) (places name : String) : Option String :=
  match programs s places name with
  | found :: _ => some found
  | [] =>
    ((pathsIn places name).find? fun p =>
      match s.world.stat p with
      | .ok node => node.isRegular
      | .error _ => false).map fun p => ofText p.spelling

/-- The path that is kept for a name. -/
def kept? (s : State) (name : String) : Option String :=
  (s.own.found.find? fun entry => entry.1 == name).map (·.2.1)

/-- Keeps the path for a name. -/
def keep (name path : String) (count : Nat) : Effect Unit :=
  changeOwn fun own =>
    { own with
      found := (name, path, count) :: own.found.filter fun entry => entry.1 != name }

/-- Takes note that a program has been run. -/
def count (name : String) : Effect Unit :=
  changeOwn fun own =>
    { own with
      found := own.found.map fun entry =>
        if entry.1 == name then (name, entry.2.1, entry.2.2 + 1) else entry }

/-- What a word means. -/
inductive Sense where
  | aliased (text : String)
  | keyword
  | function (f : Function)
  | builtin
  /-- A program whose path is kept. -/
  | kept (path : String)
  | file (path : String)

/-- How senses are looked for. -/
structure Manner where
  /-- Whether all senses are asked for. -/
  all : Bool
  /-- Whether functions count. -/
  functions : Bool
  /-- Whether only programs count. -/
  onlyPrograms : Bool
  /-- The directories to look in, if not the usual ones. -/
  places : Option String

/-- The senses of a word, the first of which counts. -/
def senses (s : State) (manner : Manner) (name : String) : List Sense :=
  let aliases := if s.own.has "expand_aliases" then
      ((s.aliases.find? fun entry => entry.1 == name).map fun entry => Sense.aliased entry.2).toList
    else []
  let words := if keywords.contains name then [Sense.keyword] else []
  let functions := if manner.functions then ((function? s name).map Sense.function).toList else []
  let commands := if isBuiltin s name then [Sense.builtin] else []
  let isPath := name.toList.contains '/'
  let files : List Sense :=
    if isPath then if isProgram s.world ⟨toText name⟩ then [.file name] else []
    else
      let known := if manner.all || manner.places.isSome then [] else
        ((kept? s name).map Sense.kept).toList
      known ++ (programs s (manner.places.getD (places s)) name).map Sense.file
  if manner.onlyPrograms then files else aliases ++ words ++ functions ++ commands ++ files

/-- The kind of a sense, in a word. -/
def Sense.kind : Sense → String
  | aliased _ => "alias"
  | keyword => "keyword"
  | function _ => "function"
  | builtin => "builtin"
  | kept _ => "file"
  | file _ => "file"

/-- The path of a sense. -/
def Sense.path? : Sense → Option String
  | kept path => some path
  | file path => some path
  | _ => none

/-- A sense in a sentence. -/
def Sense.sentence (s : State) (name : String) : Sense → String
  | aliased text => name ++ " is aliased to \u0060" ++ text ++ "'\n"
  | keyword => name ++ " is a shell keyword\n"
  | function f =>
    name ++ " is a function\n" ++ Printing.ofFunction s.own.documents name f.body ++ "\n"
  | builtin => name ++ " is a shell builtin\n"
  | kept path => name ++ " is hashed (" ++ path ++ ")\n"
  | file path => name ++ " is " ++ path ++ "\n"

/-- What can be written for a word in its sense. -/
def Sense.reusable (name : String) : Sense → String
  | aliased text => "alias " ++ name ++ "=" ++ Escape.singleQuoted text ++ "\n"
  | kept path => path ++ "\n"
  | file path => path ++ "\n"
  | _ => name ++ "\n"

/-- Does what `type` does. -/
def type (arguments : List String) : Effect Unit := do
  let words := arguments.map fun word =>
    match word with
    | "-type" => "-t"
    | "-path" => "-p"
    | "-all" => "-a"
    | word => word
  let (options, names) ← options "afptP" "" words
  let isAsked (c : Char) : Bool := options.any (·.1 == c)
  let manner : Manner := ⟨isAsked 'a', !isAsked 'f', isAsked 'P', none⟩
  let isBrief := isAsked 't' || isAsked 'p' || isAsked 'P'
  let results ← names.mapM fun name => do
    let s ← state
    let found := senses s manner name
    let found := if isAsked 'a' then found else found.take 1
    let shown := found.filterMap fun sense =>
      if isAsked 't' then some (sense.kind ++ "\n")
      else if isAsked 'p' || isAsked 'P' then sense.path?.map (· ++ "\n")
      else some (sense.sentence s name)
    say (String.join shown)
    if found.isEmpty && !isBrief then object (name ++ ": not found")
    return !(if isAsked 'p' then shown.isEmpty && found.isEmpty else found.isEmpty)
  answer (results.all id)

/-- Tells what words mean, as `command` does. -/
def describe (inSentences : Bool) (places : Option String) (names : List String) : Effect Unit := do
  let results ← names.mapM fun name => do
    let s ← state
    match senses s ⟨false, true, false, places⟩ name with
    | sense :: _ =>
      say (if inSentences then sense.sentence s name else sense.reusable name)
      return true
    | [] =>
      if inSentences then object (name ++ ": not found")
      return false
  answer (results.any id)

/-- The number of chains in which paths are kept. -/
def tableSize : Nat := 256

/-- Does what `hash` does. -/
def hash (arguments : List String) : Effect Unit := do
  let (options, names) ← options "dlrt" "p" arguments
  let isAsked (c : Char) : Bool := options.any (·.1 == c)
  let path := ((options.filter fun option => option.1 == 'p').getLast?).map (·.2)
  if !(← isOn "hashall") then fail "hashing disabled"
  if isAsked 'r' then changeOwn fun own => { own with found := [] }
  let s ← state
  let ordered := inChainsOf tableSize s.own.found
  if names.isEmpty then
    if isAsked 't' then fail "-t: option requires an argument"
    if !isAsked 'r' then
      if ordered.isEmpty then
        if !isAsked 'l' then say "hash: hash table empty\n"
      else if isAsked 'l' then
        ordered.forM fun (name, path, _) =>
          say ("builtin hash -p " ++ path ++ " " ++ name ++ "\n")
      else
        say "hits\tcommand\n"
        ordered.forM fun (_, path, count) =>
          say (Text.padLeft 4 (toString count) ++ "\t" ++ path ++ "\n")
    answer true
  else
    let results ← names.mapM fun name => do
      let s ← state
      if let some path := path then
        keep name path 0
        return true
      else if isAsked 't' then
        match kept? s name with
        | some path =>
          say ((if 1 < names.length then name ++ "\t" else "") ++ path ++ "\n")
          return true
        | none =>
          object (name ++ ": not found")
          return false
      else if isAsked 'd' then
        match kept? s name with
        | some _ =>
          changeOwn fun own =>
            { own with found := own.found.filter fun entry => entry.1 != name }
          return true
        | none =>
          object (name ++ ": not found")
          return false
      else if name.toList.contains '/' || isBuiltin s name || (function? s name).isSome then
        return true
      else
        match programs s (places s) name with
        | path :: _ =>
          keep name path 0
          return true
        | [] =>
          object (name ++ ": not found")
          return false
    answer (results.all id)

end Lookup
end Extended
end Shell
end SuiteCoverage
