import SuiteCoverage.Calendar
import SuiteCoverage.Regex.Reading
import SuiteCoverage.Shell.Utility.Listing

/-!
# Questions about files

What `find` asks about the files that it comes to, and what it does with them. Questions are put
together by *and*, *or* and *not*; whether an action belongs to a file depends on the questions in
front of it.
-/

set_option autoImplicit false

namespace SuiteCoverage
namespace Shell
namespace Finding

open Utility

/-- How a number compares with a given one. -/
inductive Side where
  | more
  | less
  | equal
deriving DecidableEq, Repr

/-- The numbers on one side of a number. -/
structure Amount where
  side : Side
  number : Nat
deriving DecidableEq, Repr

/-- Whether a number is one of those. -/
def Amount.holds (amount : Amount) (n : Nat) : Bool :=
  match amount.side with
  | .more => amount.number < n
  | .less => n < amount.number
  | .equal => n == amount.number

/-- The times on one side of a time, in millionths of a second; equal to it are those that are at
    most as much later as a window is wide. -/
structure Period where
  side : Side
  reference : Int
  window : Int
deriving DecidableEq, Repr

/-- Whether a time is one of those. -/
def Period.holds (period : Period) (time : Int) : Bool :=
  match period.side with
  | .more => period.reference < time
  | .less => time < period.reference
  | .equal => period.reference < time && time ≤ period.reference + period.window

/-- How the bits of a mode compare with given ones. -/
inductive Agreement where
  | all
  | some
  | exact
deriving DecidableEq, Repr

/-- A question about a file. -/
inductive Test where
  | always (answer : Bool)
  | name (pattern : List Glob.Token) (folds : Bool)
  | path (pattern : List Glob.Token) (folds : Bool)
  /-- Where a link leads. -/
  | leadsTo (pattern : List Glob.Token) (folds : Bool)
  | expression (regex : Regex) (folds : Bool)
  /-- The letter for its kind. -/
  | kind (letters : List Char)
  /-- The letter for the kind of what is behind a link. -/
  | kindBehind (letters : List Char)
  /-- The number of units that hold its bytes. -/
  | size (amount : Amount) (unit : Nat)
  | empty
  /-- The bits of its mode; a directory can have bits of its own to compare with. -/
  | mode (agreement : Agreement) (bits directoryBits : Nat)
  | time (period : Period)
  | links (amount : Amount)
  | identity (amount : Amount)
  | owner (amount : Amount)
  | sameAs (path : String)
  /-- What may be done with it. -/
  | allowed (bit : Nat)

/-- A part of a line that is written about a file. -/
inductive Portion where
  | text (text : String)
  | field (letter : Char) (sub : Char) (flags : List Char) (width : Nat) (precision : Option Nat)
  /-- Nothing is written any more. -/
  | halt
deriving DecidableEq, Repr

/-- How a command is run. -/
structure Running where
  /-- Whether several files make up one command. -/
  isBatch : Bool
  /-- Whether it is run in the directory of the file. -/
  isLocal : Bool
  /-- Whether there has to be an answer that allows it. -/
  asks : Bool
deriving DecidableEq, Repr

/-- What is done with a file. -/
inductive Action where
  | write (target : Option String) (portions : List Portion)
  | list (target : Option String)
  | delete
  | prune
  | quit
  /-- Runs a command, which is known by the place where it was given. -/
  | run (place : Nat) (words : List String) (running : Running)

/-- What is asked and done. -/
inductive Query where
  | test (test : Test)
  | action (action : Action)
  | not (query : Query)
  | both (first second : Query)
  | either (first second : Query)
  /-- The second counts. -/
  | after (first second : Query)

/-- Which links are followed. -/
inductive Following where
  | none
  /-- Those that were given. -/
  | given
  | all
deriving DecidableEq, Repr

/-- How the files are gone through. -/
structure Course where
  following : Following
  least : Nat
  most : Option Nat
  /-- Whether what is in a directory comes before it. -/
  isDeepFirst : Bool
deriving DecidableEq, Repr

/-- A file that has been come to. -/
structure Found where
  path : String
  /-- The path that was given, from which it was found. -/
  start : String
  depth : Nat
  node : Node

/-! ## Names -/

/-- A text without the slashes at its end, unless there is nothing else. -/
def withoutSlashes (text : String) : String :=
  let kept := (text.toList.reverse.dropWhile (· == '/')).reverse
  if kept.isEmpty then (if text.isEmpty then "" else "/") else String.ofList kept

/-- The part of a path behind its last slash. -/
def lastPart (text : String) : String :=
  if text == "/" then "/"
  else String.ofList (text.toList.reverse.takeWhile (· != '/')).reverse

/-- The name of a file. -/
def Found.name (f : Found) : String := lastPart (withoutSlashes f.path)

/-- The name of a file, with a slash behind it if one was given. -/
def Found.givenName (f : Found) : String :=
  let short := withoutSlashes f.path
  if short == "/" then "/" else lastPart short ++ if short == f.path then "" else "/"

/-- The path of a file up to its last slash. -/
def Found.directory (f : Found) : String :=
  let before := f.path.toList.reverse.dropWhile (· != '/')
  if before.isEmpty then "." else String.ofList (before.drop 1).reverse

/-! ## Answers -/

/-- Whether a text matches a pattern. -/
def isLike (pattern : List Glob.Token) (folds : Bool) (text : String) : Bool :=
  Glob.isMatch pattern (if folds then text.toLower else text).toList

/-- The letter for the kind of a file. -/
def letterOf (node : Node) : Char :=
  if kindLetter node == '-' then 'f' else kindLetter node

/-- What is behind a file, if it is a link that leads anywhere. -/
def Found.behind (f : Found) (w : World) : Except Fault Node := w.stat (pathOf f.path)

/-- Whether the bits of a mode agree with given ones. -/
def Agreement.holds (agreement : Agreement) (given bits : Nat) : Bool :=
  match agreement with
  | .all => bits &&& given == given
  | .some => given == 0 || bits &&& given != 0
  | .exact => bits &&& Mode.all == given

/-- When a file was changed. Links count as new. -/
def changedAt (w : World) (node : Node) : Int :=
  if node.isLink then w.fileTime else node.facts.changed

/-- The answer to a question about a file. -/
def Test.holds (w : World) (following : Following) (f : Found) : Test → Bool
  | always answer => answer
  | name pattern folds => isLike pattern folds f.name
  | path pattern folds => isLike pattern folds f.path
  | leadsTo pattern folds =>
    match f.node with
    | .link target => isLike pattern folds (ofText target)
    | _ => false
  | expression regex folds =>
    let s : Subject := ⟨f.path.toList.toArray, folds, false⟩
    (regex.ends s 0).contains s.text.size
  | kind letters => letters.contains (letterOf f.node)
  | kindBehind letters =>
    if following == .all then
      match nodeAt w (pathOf f.path) with
      | .ok node => letters.contains (letterOf node)
      | .error _ => false
    else letters.contains (letterOf ((f.behind w).toOption.getD f.node))
  | size amount unit => amount.holds ((sizeOfNode f.node + unit - 1) / unit)
  | empty =>
    match f.node with
    | .directory _ entries => entries.isEmpty
    | .file content _ => content.isEmpty
    | _ => false
  | mode agreement bits directoryBits =>
    agreement.holds (if f.node.isDirectory then directoryBits else bits) f.node.mode.bits
  | time period => period.holds (changedAt w f.node)
  | links amount => amount.holds (linksOf w.disk f.node)
  | identity amount => amount.holds (f.node.facts.identity.getD 0)
  | owner amount => amount.holds (if f.node.facts.isForeign then 0 else 1000)
  | sameAs p =>
    Condition.isSame w f.path p && (following == .all || !f.node.isLink || f.path == p)
  | allowed bit =>
    match f.behind w with
    | .ok node => node.facts.rights &&& bit != 0
    | .error _ => false

/-! ## Lines about files -/

/-- A time as a letter asks for it. -/
def timeField (letter : Char) (micros : Int) : String :=
  let seconds := Int.fdiv micros Duration.second
  let rest := (Int.fmod micros Duration.second).toNat
  let moment := Calendar.Moment.ofSeconds seconds (rest * 1000)
  let digits := toString rest
  let fraction := "." ++ String.ofList (List.replicate (6 - digits.length) '0') ++ digits ++ "0000"
  let shown (format : String) : String := moment.shown 0 "UTC" format
  match letter with
  | '@' => toString seconds ++ fraction
  | '+' => shown "%Y-%m-%d+%H:%M:%S" ++ fraction
  | 'S' => shown "%S" ++ fraction
  | 'T' => shown "%H:%M:%S" ++ fraction
  | 'X' => shown "%H:%M:%S" ++ fraction
  | c => shown ("%" ++ String.singleton c)

/-- A time as it is usually written. -/
def usualTime (micros : Int) : String :=
  let seconds := Int.fdiv micros Duration.second
  (Calendar.Moment.ofSeconds seconds 0).shown 0 "UTC" "%a %b %e "
    ++ timeField 'T' micros ++ (Calendar.Moment.ofSeconds seconds 0).shown 0 "UTC" " %Y"

/-- The letter for what is behind a link. -/
def letterBehind (w : World) (f : Found) : Char :=
  match f.node with
  | .link _ =>
    match f.behind w with
    | .ok node => letterOf node
    | .error .tooManyLinks => 'L'
    | .error _ => 'N'
  | node => letterOf node

/-- What a letter asks for about a file. -/
def fieldText (w : World) (f : Found) (letter sub : Char) (flags : List Char) : Option String :=
  let micros := changedAt w f.node
  match letter with
  | 'p' => some f.path
  | 'f' => some f.givenName
  | 'h' => some f.directory
  | 'P' =>
    let rest := (f.path.drop f.start.length).toString
    some (if rest.startsWith "/" then (rest.drop 1).toString else rest)
  | 'H' => some f.start
  | 'd' => some (toString f.depth)
  | 's' => some (toString (sizeOfNode f.node))
  | 'k' => some (toString (blocksOf f.node))
  | 'b' => some (toString (2 * blocksOf f.node))
  | 'm' =>
    let octal := String.ofList (Nat.toDigits 8 f.node.mode.bits)
    some (if flags.contains '#' && octal != "0" then "0" ++ octal else octal)
  | 'M' => some (nodeLetters f.node)
  | 'n' => some (toString (linksOf w.disk f.node))
  | 'i' => some (toString (f.node.facts.identity.getD 0))
  | 'u' => some (ownerOf f.node)
  | 'g' => some (ownerOf f.node)
  | 'U' => some (if f.node.facts.isForeign then "0" else "1000")
  | 'G' => some (if f.node.facts.isForeign then "0" else "1000")
  | 'l' =>
    match f.node with
    | .link target => some (ofText target)
    | _ => some ""
  | 'y' => some (String.singleton (letterOf f.node))
  | 'Y' => some (String.singleton (letterBehind w f))
  | 't' => some (usualTime micros)
  | 'a' => some (usualTime micros)
  | 'c' => some (usualTime micros)
  | 'T' => some (timeField sub micros)
  | 'A' => some (timeField sub micros)
  | 'C' => some (timeField sub micros)
  | 'D' => some "1"
  | 'F' => some "ext4"
  | 'S' => some "1"
  | _ => none

/-- A text in a field of some width. -/
def fitted (flags : List Char) (width : Nat) (precision : Option Nat) (isNumber : Bool)
    (text : String) : String :=
  let text := match precision with
    | some n => if isNumber then text else (text.take n).toString
    | none => text
  let space (c : Char) : String := String.ofList (List.replicate (width - text.length) c)
  if flags.contains '-' then text ++ space ' '
  else if flags.contains '0' && isNumber then space '0' ++ text
  else space ' ' ++ text

/-- What is written about a file. -/
def writtenAbout (w : World) (f : Found) : List Portion → String
  | [] => ""
  | .text text :: rest => text ++ writtenAbout w f rest
  | .halt :: _ => ""
  | .field letter sub flags width precision :: rest =>
    fitted flags width precision ("dmnUG".toList.contains letter)
      ((fieldText w f letter sub flags).getD "") ++ writtenAbout w f rest

/-- The line with all that is known about a file. -/
def listedAbout (w : World) (now : Int) (f : Found) : String :=
  let node := f.node
  let micros := changedAt w node
  let seconds := Int.fdiv micros Duration.second
  let isRecent := now - 15778476 < seconds && seconds ≤ now
  let time := (Calendar.Moment.ofSeconds seconds 0).shown 0 "UTC"
    (if isRecent then "%b %e %H:%M" else "%b %e  %Y")
  let owner := Text.padRight 8 (ownerOf node)
  let name := String.ofList (f.path.toList.flatMap fun c =>
    if c == ' ' || c == '\\' then ['\\', c] else if Quoting.isVisible c then [c] else Quoting.escapeOf c)
  Text.padLeft 9 (toString (node.facts.identity.getD 0)) ++ " "
    ++ Text.padLeft 6 (toString (blocksOf node)) ++ " " ++ nodeLetters node ++ " "
    ++ Text.padLeft 3 (toString (linksOf w.disk node)) ++ " " ++ owner ++ " " ++ owner ++ " "
    ++ Text.padLeft 8 (toString (sizeOfNode node)) ++ " " ++ time ++ " " ++ name
    ++ (match node with
      | .link target => " -> " ++ ofText target
      | _ => "") ++ "\n"

end Finding
end Shell
end SuiteCoverage
