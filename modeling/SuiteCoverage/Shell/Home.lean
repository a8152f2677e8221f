import SuiteCoverage.Shell.Script

/-!
# Tildes

A tilde at the start of a word, and the name of a user behind it up to a separator, stand for the
directory of that user; without a name it is the user who runs the script. In the value of an
assignment a tilde may also follow a colon, and the name behind it ends at the next one. What is
quoted is no tilde and no part of such a name.
-/

set_option autoImplicit false

namespace SuiteCoverage
namespace Shell
namespace Home

/-- The users that every system has, and their directories. -/
def users : List (String × String) :=
  [("root", "/root"), ("daemon", "/usr/sbin"), ("bin", "/bin"), ("sys", "/dev"), ("sync", "/bin"),
    ("games", "/usr/games"), ("man", "/var/cache/man"), ("lp", "/var/spool/lpd"),
    ("mail", "/var/mail"), ("news", "/var/spool/news"), ("uucp", "/var/spool/uucp"),
    ("proxy", "/bin"), ("www-data", "/var/www"), ("backup", "/var/backups"),
    ("list", "/var/list"), ("nobody", "/nonexistent")]

/-- Where in a text a tilde counts. -/
inductive Place where
  /-- Here, and nowhere else if the text is no value. -/
  | here
  /-- Behind the sign of the assignment. -/
  | behindSign
  /-- Behind a colon. -/
  | behindColon
  | nowhere
deriving DecidableEq, Repr

/-- The place to look for a tilde once a character has been passed. -/
def Place.after (isValue : Bool) (c : Char) : Place → Place
  | here => if !isValue then nowhere else if c = ':' then here else behindColon
  | behindSign => if c = '=' then here else behindSign
  | behindColon => if c = ':' then here else behindColon
  | nowhere => nowhere

/-- The directory of a user as a part of a word. -/
def fragmentOf (directory : String) : List Fragment :=
  if directory.isEmpty then [] else [.text directory true]

/-- A text with directories in place of its tildes; `isLast` tells that the word ends with it, and
    `passed` are the characters since the last tilde, the last one first. -/
def replaced (directoryOf : String → Option String) (isValue isLast : Bool) :
    Nat → Place → List Char → List Char → List Fragment
  | 0, _, passed, rest => [.text (String.ofList (passed.reverse ++ rest)) false]
  | _, _, passed, [] =>
    if passed.isEmpty then [] else [.text (String.ofList passed.reverse) false]
  | fuel + 1, place, passed, c :: rest =>
    let name := rest.takeWhile fun c => c != '/' && !(isValue && c == ':')
    let after := rest.drop name.length
    let directory :=
      if place = .here ∧ c = '~' ∧ (isLast || !after.isEmpty) then
        directoryOf (String.ofList name)
      else none
    match directory with
    | some directory =>
      let next : Place := if isValue then .behindColon else .nowhere
      replaced directoryOf isValue isLast 0 .nowhere passed [] ++ fragmentOf directory
        ++ replaced directoryOf isValue isLast fuel next [] after
    | none =>
      replaced directoryOf isValue isLast fuel (place.after isValue c) (c :: passed) rest

/-- The fragments of a word with directories in place of tildes. -/
def replacedIn (directoryOf : String → Option String) (isValue : Bool) :
    Place → List Fragment → List Fragment
  | _, [] => []
  | place, .text text false :: rest =>
    let chars := text.toList
    let next := chars.foldl (fun place c => place.after isValue c) place
    replaced directoryOf isValue rest.isEmpty (chars.length + 1) place [] chars
      ++ replacedIn directoryOf isValue next rest
  | place, fragment :: rest =>
    let next : Place := if place = .here then (if isValue then .behindColon else .nowhere) else place
    fragment :: replacedIn directoryOf isValue next rest

/-- Whether a word has the form of an assignment. -/
def isAssignment : Word → Bool
  | .text text false :: _ =>
    let name := text.toList.takeWhile fun c => c.isAlphanum || c == '_'
    name.head?.any (!·.isDigit) && (text.toList.drop name.length).head? == some '='
  | _ => false

/-- A word that is no value with the directory of a user in place of a tilde. -/
def inWord (directoryOf : String → Option String) (word : Word) : Word :=
  replacedIn directoryOf false .here word

/-- A value with directories in place of tildes. -/
def inValue (directoryOf : String → Option String) (value : Word) : Word :=
  replacedIn directoryOf true .here value

/-- A word that has the form of an assignment with directories in place of tildes. -/
def inAssignment (directoryOf : String → Option String) (word : Word) : Word :=
  replacedIn directoryOf true .behindSign word

end Home
end Shell
end SuiteCoverage
