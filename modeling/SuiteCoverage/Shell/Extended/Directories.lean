import SuiteCoverage.Text.Column
import SuiteCoverage.Shell.Directory
import SuiteCoverage.Shell.Extended.Setting

/-!
# The directories of the extended shell

A script goes from directory to directory, and can put directories away to come back to them.
-/

set_option autoImplicit false

namespace SuiteCoverage
namespace Shell
namespace Extended
namespace Directories

open Effect

/-- Gives a variable that programs see a text. -/
def export_ (name text : String) : Effect Unit := do
  let v := Store.variableOr (← state) name
  change fun s => Store.put s name ({ v with value := .text text }.withAttribute 'x')

/-- Notes the path of the directory worked in. -/
def note (directory : String) : Effect Unit := do
  change fun s => { s with directory }
  export_ "PWD" directory

/-- Finds out the path of the directory worked in, when the shell starts. -/
def start : Effect Unit := do
  let s ← state
  let known := (Store.textOf? s "PWD").filter fun p =>
    p.toList.head? == some '/' && Directory.leadsHere s.world p
  match known with
  | some p => note p
  | none =>
    let p := Directory.physical s.world
    if p.isEmpty then
      complain ("shell-init: error retrieving current directory: getcwd: cannot access parent "
        ++ "directories: No such file or directory")
    note p
  if (Store.find? (← state) "OLDPWD").isNone then
    change fun s => Store.put s "OLDPWD" ⟨.nothing, ['x']⟩

/-- Goes to a directory, and tells whether that was possible. -/
def goTo (isPhysical : Bool) (target : String) : Effect (Option Fault) := do
  let s ← state
  let joined := Directory.joined s.directory target
  let directory :=
    if isPhysical || (s.directory.isEmpty && target.toList.head? != some '/') then "" else joined
  let path := if directory.isEmpty then target else directory
  match s.world.changeDirectory ⟨toText path⟩ with
  | .ok world =>
    change fun s => { s with world }
    export_ "OLDPWD" s.directory
    note (if directory.isEmpty then Directory.physical world else directory)
    return none
  | .error fault => return some fault

/-- Whether links are followed at once. -/
def isPhysicalFor (options : List (Char × String)) : Effect Bool := do
  match (options.filter fun option => option.1 != 'e').getLast? with
  | some (c, _) => return c == 'P'
  | none => isOn "physical"

/-- Goes to a directory that is looked for in those that a variable lists; tells the fault if there
    is one, and whether the path is to be told. -/
def goFrom (isPhysical : Bool) (target : String) : List String → Effect (Option Fault × Bool)
  | [] => return (← goTo isPhysical target, false)
  | place :: rest => do
    let path := if place.isEmpty then target
      else if place.endsWith "/" then place ++ target else place ++ "/" ++ target
    match ← goTo isPhysical path with
    | none => return (none, !place.isEmpty)
    | some _ => goFrom isPhysical target rest

/-- Does what `cd` does. -/
def cd (arguments : List String) : Effect Unit := do
  let (options, words) ← options "LPe@" "" arguments
  let isPhysical ← isPhysicalFor options
  let s ← state
  let go (target : String) (tells : Bool) : Effect Unit := do
    let isPlain := target.toList.head?.any (· == '/') || target = "." || target = ".."
      || target.startsWith "./" || target.startsWith "../"
    let places := if isPlain then [] else ((Store.textOf? s "CDPATH").map fun text =>
      text.splitOn ":").getD []
    let (fault, isFound) ← goFrom isPhysical target places
    match fault with
    | some fault => fail (target ++ ": " ++ fault.reason)
    | none =>
      if tells || isFound then say ((← state).directory ++ "\n")
      answer true
  match words with
  | [] =>
    match Store.textOf? s "HOME" with
    | some home => if home.isEmpty then answer true else go home false
    | none => fail "HOME not set"
  | ["-"] =>
    match Store.textOf? s "OLDPWD" with
    | some old => go old true
    | none => fail "OLDPWD not set"
  | [target] => if target.isEmpty then answer true else go target false
  | _ => fail "too many arguments"

/-- Does what `pwd` does. -/
def pwd (arguments : List String) : Effect Unit := do
  let (options, _) ← options "LP" "" arguments
  let s ← state
  say ((if ← isPhysicalFor options then Directory.physical s.world else s.directory) ++ "\n")
  answer true

/-! ## Directories that are put away -/

/-- A path as it is shown, with a tilde for the user's own directory. -/
def shown (s : State) (long : Bool) (p : String) : String :=
  match Store.textOf? s "HOME" with
  | some home =>
    if long || home.isEmpty then p
    else if p = home then "~"
    else if p.startsWith (home ++ "/") then "~" ++ (p.drop home.length).toString
    else p
  | none => p

/-- All directories, the one worked in first. -/
def all (s : State) : List String := s.directory :: s.own.directories

/-- Writes all directories on a line. -/
def sayAll : Effect Unit := do
  let s ← state
  say (" ".intercalate ((all s).map (shown s false)) ++ "\n")

/-- The number that a word is behind a sign, counted from the front or from the end. -/
def index? (count : Nat) (word : String) : Option (Option Nat) :=
  match word.toList with
  | sign :: digits =>
    if (sign = '+' || sign = '-') && !digits.isEmpty && digits.all Char.isDigit then
      let n := ((String.ofList digits).toNat?).getD 0
      some (if count ≤ n then none else some (if sign = '+' then n else count - 1 - n))
    else none
  | [] => none

/-- Refuses a number of a directory. -/
def refuseIndex {α : Type} (word : String) : Effect α := do
  if (← state).own.directories.isEmpty then fail "directory stack empty"
  else fail (word ++ ": directory stack index out of range")

/-- Goes to a directory that is then the first of some. -/
def become (target : String) (others : List String) : Effect Unit := do
  match ← goTo false target with
  | some fault => fail (target ++ ": " ++ fault.reason)
  | none => changeOwn fun own => { own with directories := others }

/-- Does what `pushd` does. -/
def pushd (arguments : List String) : Effect Unit := do
  let stays := arguments.head? == some "-n"
  let words := if stays then arguments.drop 1 else arguments
  let words := if words.head? == some "--" then words.drop 1 else words
  let s ← state
  match words with
  | [] =>
    match s.own.directories with
    | [] => fail "no other directory"
    | first :: rest => become first (s.directory :: rest)
  | [word] =>
    match index? (all s).length word with
    | some none => refuseIndex word
    | some (some n) =>
      match (all s).drop n ++ (all s).take n with
      | first :: rest => become first rest
      | [] => pure ()
    | none =>
      if stays then
        changeOwn fun own => { own with directories := word :: own.directories }
      else
        let target := if word = "-" then (Store.textOf? s "OLDPWD").getD "" else word
        become target (s.directory :: s.own.directories)
  | _ => fail "too many arguments"
  sayAll
  answer true

/-- Does what `popd` does. -/
def popd (arguments : List String) : Effect Unit := do
  let stays := arguments.head? == some "-n"
  let words := if stays then arguments.drop 1 else arguments
  let s ← state
  let drop (n : Nat) : Effect Unit := do
    if n = 0 && !stays then
      match s.own.directories with
      | [] => fail "directory stack empty"
      | first :: rest => become first rest
    else
      changeOwn fun own => { own with directories := own.directories.eraseIdx (n - 1) }
  if s.own.directories.isEmpty && words.isEmpty then fail "directory stack empty"
  match words with
  | [] => drop 0
  | [word] =>
    match index? (all s).length word with
    | some (some n) => drop n
    | some none => refuseIndex word
    | none =>
      object (word ++ ": invalid argument")
      refuseUsage
  | _ => fail "too many arguments"
  sayAll
  answer true

/-- Does what `dirs` does. -/
def dirs (arguments : List String) : Effect Unit := do
  let s ← state
  let flags := (arguments.filter fun word =>
    word.startsWith "-" && (index? 1 word).isNone).flatMap fun word => word.toList.drop 1
  match flags.find? fun c => !"clpv".toList.contains c with
  | some c =>
    object ("-" ++ String.singleton c ++ ": invalid option")
    refuseUsage
  | none => pure ()
  let numbers := arguments.filter fun word => (index? 1 word).isSome
  if flags.contains 'c' then changeOwn fun own => { own with directories := [] }
  else
    let names := (all s).map (shown s (flags.contains 'l'))
    match numbers with
    | word :: _ =>
      match index? names.length word with
      | some (some n) => say ((names[n]?).getD "" ++ "\n")
      | _ => refuseIndex word
    | [] =>
      if flags.contains 'v' then
        let lines := names.mapIdx fun n name =>
          Text.padLeft 2 (toString n) ++ "  " ++ name ++ "\n"
        say (String.join lines)
      else if flags.contains 'p' then say (String.join (names.map (· ++ "\n")))
      else say (" ".intercalate names ++ "\n")
  answer true

end Directories
end Extended
end Shell
end SuiteCoverage
