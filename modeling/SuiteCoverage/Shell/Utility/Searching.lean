import SuiteCoverage.Regex.Reading
import SuiteCoverage.Shell.Utility.Basic

/-!
# Searching lines

The utility that shows the lines that match expressions, or tells how many there are or which files
have some. Every line of a text of expressions is an expression of its own. Lines around those that
match are shown as their context.
-/

set_option autoImplicit false

namespace SuiteCoverage
namespace Shell
namespace Utility

open Effect

/-! ## Expressions -/

/-- What lines are searched for. -/
structure Wanted where
  expressions : List Regex
  folds : Bool
  /-- Whether a match has to be made up of words. -/
  words : Bool
  /-- Whether a match has to be the whole line. -/
  whole : Bool

namespace Wanted

/-- A line as it is searched. -/
def subject (wanted : Wanted) (line : String) : Subject :=
  ⟨line.toList.toArray, wanted.folds, false⟩

/-- Whether a part of a line stands by itself. -/
def isApart (s : Subject) (first last : Nat) : Bool :=
  !s.isWordBefore first && !s.isWordAt last

/-- The end of the longest match of an expression from a place on that will do. -/
def endFrom? (wanted : Wanted) (s : Subject) (re : Regex) (first : Nat) : Option Nat :=
  let isGood (last : Nat) : Bool :=
    (!wanted.whole || (first == 0 && last == s.text.size))
      && (!wanted.words || wanted.whole || isApart s first last)
  if re.refersBack then ((re.matchAt? s first).map Regex.Match.last).filter isGood
  else
    let ends := re.ends s first
    match ends with
    | [] => none
    | longest :: shorter =>
      if isGood longest then some longest
      else (shorter.filter (first < ·)).find? isGood

/-- The longest match of any expression from a place on. -/
def lastFrom? (wanted : Wanted) (s : Subject) (first : Nat) : Option Nat :=
  wanted.expressions.foldl
    (fun best re =>
      match best, wanted.endFrom? s re first with
      | some a, some b => some (max a b)
      | none, found => found
      | found, none => found)
    none

/-- The first match that starts at one of a number of places. -/
def searchFrom (wanted : Wanted) (s : Subject) : Nat → Nat → Option (Nat × Nat)
  | 0, first => (wanted.lastFrom? s first).map fun last => (first, last)
  | count + 1, first =>
    match wanted.lastFrom? s first with
    | some last => some (first, last)
    | none => searchFrom wanted s count (first + 1)

/-- The first match from a place on. -/
def find? (wanted : Wanted) (s : Subject) (start : Nat) : Option (Nat × Nat) :=
  if s.text.size < start then none
  else if wanted.whole then
    if start == 0 then (wanted.lastFrom? s 0).map fun last => (0, last) else none
  else wanted.searchFrom s (s.text.size - start) start

/-- Whether a line matches. -/
def isIn (wanted : Wanted) (line : String) : Bool :=
  let s := wanted.subject line
  if wanted.words || wanted.whole then (wanted.find? s 0).isSome
  else wanted.expressions.any fun re => re.isIn s

/-- The matches in a line that are not empty, with a number of steps to find them in. -/
def allFrom (wanted : Wanted) (s : Subject) : Nat → Nat → List (Nat × Nat)
  | 0, _ => []
  | fuel + 1, start =>
    match wanted.find? s start with
    | none => []
    | some (first, last) =>
      if first == last then allFrom wanted s fuel (first + 1)
      else (first, last) :: allFrom wanted s fuel last

/-- The matches in a line. -/
def all (wanted : Wanted) (line : String) : List (Nat × Nat) :=
  let s := wanted.subject line
  wanted.allFrom s (s.text.size + 1) 0

end Wanted

/-- An expression for a text itself. -/
def literally (text : List Char) : Regex :=
  text.foldr (fun c re => .seq (.chars (.single c)) re) .empty

/-! ## Options -/

/-- The options of `grep`. -/
def grepFlags : Flags :=
  ⟨"0123456789EFGHILPTUVXabchilnoqRrsuvwxyZzKNW".toList, "ABCDdefmXOQYJSKt".toList,
    [("basic-regexp", 'G'), ("extended-regexp", 'E'), ("fixed-regexp", 'F'),
      ("fixed-strings", 'F'), ("perl-regexp", 'P'), ("after-context", 'A'),
      ("before-context", 'B'), ("binary-files", 't'), ("binary", 'U'), ("byte-offset", 'b'),
      ("context", 'C'), ("color", 'K'), ("colour", 'K'), ("count", 'c'), ("devices", 'D'),
      ("directories", 'd'), ("exclude", 'X'), ("exclude-from", 'O'), ("exclude-dir", 'Q'),
      ("file", 'f'), ("files-with-matches", 'l'), ("files-without-match", 'L'),
      ("group-separator", 'S'), ("include", 'Y'), ("ignore-case", 'i'), ("no-ignore-case", 'W'),
      ("initial-tab", 'T'), ("label", 'J'), ("line-buffered", 'u'), ("line-number", 'n'),
      ("line-regexp", 'x'), ("max-count", 'm'), ("no-filename", 'h'),
      ("no-group-separator", 'N'), ("no-messages", 's'), ("null", 'Z'), ("null-data", 'z'),
      ("only-matching", 'o'), ("quiet", 'q'), ("recursive", 'r'), ("dereference-recursive", 'R'),
      ("regexp", 'e'), ("invert-match", 'v'), ("silent", 'q'), ("text", 'a'),
      ("unix-byte-offsets", 'u'), ("with-filename", 'H'), ("word-regexp", 'w')]⟩

/-- How lines are shown. -/
structure Showing where
  wanted : Wanted
  choice : Flags.Choice
  before : Nat
  after : Nat
  /-- What stands between lines that do not follow each other, if anything does. -/
  separator : Option String
  most : Option Nat
  ending : Char
  named : Bool
  colored : Bool

/-- Says how `grep` is to be called. -/
def blameSearch (complaint : String) : Effect Unit := do
  blame complaint
  complain "Usage: grep [OPTION]... PATTERNS [FILE]..."
  complain "Try 'grep --help' for more information."
  setStatus 2

/-- Stops with what is wrong. -/
def refuseSearch {α : Type} (complaint : String) : Effect α := do
  blame complaint
  throw (.exit 2)

/-! ## Colors -/

/-- A text in a color, if colors are wanted. -/
def Showing.tinted (showing : Showing) (color text : String) : String :=
  if showing.colored then
    "\x1b[" ++ color ++ "m\x1b[K" ++ text ++ "\x1b[m\x1b[K"
  else text

/-- A line with its matches in color. -/
def Showing.lit (showing : Showing) (line : String) : String :=
  if !showing.colored then line
  else
    let chars := line.toList.toArray
    let piece (first last : Nat) : String := String.ofList (chars.extract first last).toList
    let (text, last) := (showing.wanted.all line).foldl
      (fun (text, last) (a, b) =>
        (text ++ piece last a ++ showing.tinted "01;31" (piece a b), b)) ("", 0)
    text ++ piece last chars.size

/-! ## Files -/

/-- How far a file has been searched. -/
structure Search where
  number : Nat
  offset : Nat
  /-- How many lines have matched. -/
  count : Nat
  /-- The last lines that have not been shown, the last of them first. -/
  recent : List (Nat × Nat × String)
  /-- How many lines are still shown as context. -/
  left : Nat
  /-- The number of the line that has been shown last; zero before any has. -/
  shown : Nat
  isBinary : Bool

/-- The start of a search. -/
def Search.start : Search := ⟨0, 0, 0, [], 0, 0, false⟩

/-- What stands in front of a line: the name of its file, its number and its place. -/
def Showing.front (showing : Showing) (name sign : String) (number offset : Nat) : String :=
  let choice := showing.choice
  let sign := showing.tinted "36" sign
  let wide (text : String) : String :=
    if choice.has 'T' then Text.padLeft 19 text else text
  (if showing.named then
    showing.tinted "35" name ++ (if choice.has 'Z' then "\x00" else sign) else "")
    ++ (if choice.has 'n' then showing.tinted "32" (wide (toString number)) ++ sign else "")
    ++ (if choice.has 'b' then showing.tinted "32" (wide (toString offset)) ++ sign else "")
    ++ if choice.has 'T' && (showing.named || choice.has 'n' || choice.has 'b') then "\t" else ""

/-- Shows a line, which matches or is context. -/
def Showing.line (showing : Showing) (name : String) (matching : Bool) (number offset : Nat)
    (line : String) : Effect Unit := do
  let choice := showing.choice
  let ending := String.singleton showing.ending
  if choice.has 'o' then
    if matching && !choice.has 'v' then
      let chars := line.toList.toArray
      let pieces := (showing.wanted.all line).map fun (a, b) =>
        showing.front name ":" number (offset + a)
          ++ showing.tinted "01;31" (String.ofList (chars.extract a b).toList) ++ ending
      say (String.join pieces)
  else
    let sign := if matching then ":" else "-"
    let body := if matching != choice.has 'v' then showing.lit line else line
    say (showing.front name sign number offset ++ body ++ ending)

/-- Shows what stands between groups of lines if a line does not follow the last one shown. -/
def Showing.gap (showing : Showing) (search : Search) (number : Nat) : Effect Unit := do
  if 0 < search.shown && search.shown + 1 < number then
    showing.separator.forM fun text =>
      say (showing.tinted "36" text ++ "\n")

/-- Whether lines are shown at all. -/
def Showing.isSilent (showing : Showing) : Bool :=
  "clLq".toList.any showing.choice.has

/-- Searches a line, and tells whether more lines are wanted. -/
def Showing.step (showing : Showing) (name : String) (earlier : Bool) (search : Search)
    (line : String) : Effect (Search × Bool) := do
  let number := search.number + 1
  let here := search.offset
  let isMatch := showing.wanted.isIn line != showing.choice.has 'v'
  let next := { search with number, offset := here + (toBytes line).size + 1 }
  let isOver := showing.most.any (· ≤ search.count)
  if isMatch && isOver then return (search, false)
  else if isMatch then
    let count := search.count + 1
    if showing.choice.has 'q' then throw (.exit 0)
    if showing.choice.has 'l' || showing.choice.has 'L' then return ({ next with count }, false)
    if showing.isSilent then
      return ({ next with count }, !showing.most.any (· ≤ count))
    if search.isBinary then return ({ next with count }, false)
    let context := search.recent.reverse
    let first := (context.head?.map (·.1)).getD number
    let begun := if search.shown == 0 && earlier then { search with shown := 0 } else search
    if search.shown == 0 && earlier then
      showing.separator.forM fun text => say (showing.tinted "36" text ++ "\n")
    showing.gap begun first
    context.forM fun (number, offset, line) => showing.line name false number offset line
    showing.line name true number here line
    let more := !(showing.most.any (· ≤ count)) || 0 < showing.after
    return ({ next with count, recent := [], left := showing.after, shown := number }, more)
  else if 0 < search.left && !showing.isSilent then
    showing.line name false number here line
    let left := search.left - 1
    return ({ next with left, recent := [], shown := number }, !isOver || 0 < left)
  else
    let recent := ((number, here, line) :: search.recent).take showing.before
    return ({ next with recent }, !isOver)

/-- Searches lines. -/
def Showing.steps (showing : Showing) (name : String) (earlier : Bool) :
    List String → Search → Effect (Search × Bool)
  | [], search => return (search, true)
  | line :: rest, search => do
    tick 1
    let (search, goesOn) ← showing.step name earlier search line
    if goesOn then steps showing name earlier rest search else return (search, false)

/-- Searches what can be read from a channel. -/
def Showing.search (showing : Showing) (name : String) (earlier : Bool) (channel : Channel) :
    Nat → List Char → Search → Effect (Except Fault Search)
  | 0, _, search => return .ok search
  | fuel + 1, pending, search => do
    match ← readSome (some channel) Pipe.capacity with
    | .error fault => return .error fault
    | .ok bytes =>
      tick 1
      let isText := showing.choice.has 'a' || showing.ending == '\x00'
        || showing.choice.value? 't' == some "text"
      let hasNull := !isText && bytes.toList.contains 0
      let search := if hasNull then { search with isBinary := true } else search
      if hasNull && (showing.choice.has 'I' || showing.choice.value? 't' == some "without-match") then
        return .ok search
      if bytes.isEmpty then
        if pending.isEmpty then return .ok search
        else
          let last := String.ofList pending.reverse
          return .ok (← showing.step name earlier search last).1
      let (lines, pending) := piecesOf showing.ending pending (ofBytes bytes).toList
      let (search, goesOn) ← showing.steps name earlier lines search
      if goesOn then showing.search name earlier channel fuel pending search
      else return .ok search

/-- What has come of files. -/
structure Found where
  /-- Whether any line was selected. -/
  isFound : Bool
  hasFailed : Bool
  /-- Whether any line has been shown. -/
  hasShown : Bool

/-- Whether a channel leads to the file that the output leads to. -/
def isOutput (s : State) (channel : Channel) : Bool :=
  let origin? (channel : Option Channel) : Option Location :=
    match channel with
    | some (.opened number) =>
      (s.openingOf number).bind fun opening =>
        match opening.origin with
        | .file loc => some loc
        | _ => none
    | _ => none
  (origin? (s.channelOf 1)).isSome && origin? (some channel) == origin? (s.channelOf 1)

/-- Searches a file, and tells what is to be told of it. -/
def Showing.file (showing : Showing) (argument : String) (found : Found) : Effect Found := do
  let choice := showing.choice
  let name := if argument == "-" then (choice.value? 'J').getD "(standard input)" else argument
  let result ← withNamed argument fun channel => do
    if !showing.isSilent && isOutput (← state) channel then
      return .error (.described "input file is also the output")
    showing.search name found.hasShown channel readLimit [] .start
  match result.bind id with
  | .error fault =>
    let isSkipped := fault == .isADirectory && (choice.value? 'd').any (· == "skip")
    if isSkipped then return found
    if !choice.has 's' then blame (name ++ ": " ++ fault.reason)
    return { found with hasFailed := true }
  | .ok search =>
    if choice.has 'c' && !choice.has 'q' && !choice.has 'l' && !choice.has 'L' then
      let front := if showing.named then
          showing.tinted "35" name
            ++ (if choice.has 'Z' then "\x00" else showing.tinted "36" ":")
        else ""
      say (front ++ toString search.count ++ "\n")
    let isListed := if choice.has 'L' then search.count == 0 else choice.has 'l' && 0 < search.count
    if isListed then
      say (showing.tinted "35" name ++ (if choice.has 'Z' then "\x00" else "\n"))
    if search.isBinary && 0 < search.count && !showing.isSilent then
      flush
      blame (name ++ ": binary file matches")
    return { found with
      isFound := found.isFound || 0 < search.count
      hasShown := found.hasShown || 0 < search.shown }

/-- Whether options leave out a file or directory with a name. -/
def isLeftOut (choice : Flags.Choice) (isDirectory : Bool) (name : String) : Bool :=
  let isLike (letter : Char) : Bool := choice.options.any fun option =>
    option.1 == letter && Glob.isMatch (patternOf option.2) name.toList
  if isDirectory then isLike 'Q'
  else isLike 'X' || (choice.options.any (·.1 == 'Y') && !isLike 'Y')

/-- The files below a path, as far as options do not leave them out. -/
def filesBelow (choice : Flags.Choice) (w : World) : Nat → String → List String
  | 0, _ => []
  | fuel + 1, path =>
    match w.list (pathOf path) with
    | .error _ => [path]
    | .ok entries =>
      (entries.map (·.1)).flatMap fun name =>
        let name := ofText name
        let inner := if path.isEmpty then name
          else if path.endsWith "/" then path ++ name else path ++ "/" ++ name
        let node? := if choice.has 'R' then (w.stat (pathOf inner)).toOption
          else (nodeAt w (pathOf inner)).toOption
        match node? with
        | some (.directory ..) =>
          if isLeftOut choice true name then [] else filesBelow choice w fuel inner
        | some (.file ..) => if isLeftOut choice false name then [] else [inner]
        | some (.program _) => if isLeftOut choice false name then [] else [inner]
        | _ => []

/-- The files that arguments name, with those below directories if that is asked for. -/
def searchedFiles (choice : Flags.Choice) (w : World) (arguments : List String) : List String :=
  let isRecursive := choice.has 'r' || choice.has 'R' || choice.value? 'd' == some "recurse"
  if !isRecursive then
    (if arguments.isEmpty then ["-"] else arguments).filter fun name =>
      !isLeftOut choice false (((name.splitOn "/").getLast?).getD name) || name == "-"
  else if arguments.isEmpty then
    match w.list (pathOf ".") with
    | .error _ => []
    | .ok _ => (filesBelow choice w 64 ".").map fun path => (path.drop 2).toString
  else
    arguments.flatMap fun argument =>
      match w.stat (pathOf argument) with
      | .ok (.directory ..) =>
        if isLeftOut choice true argument then [] else filesBelow choice w 64 argument
      | _ => [argument]

/-! ## The utility -/

/-- The number that the digits among options make up. -/
def digitsChosen? (choice : Flags.Choice) : Option Nat :=
  let digits := (choice.options.map (·.1)).filter Char.isDigit
  if digits.isEmpty then none else (String.ofList digits).toNat?

/-- The number of lines of context that an option asks for. -/
def contextOf (choice : Flags.Choice) (letter : Char) : Effect (Option Nat) := do
  let given := (choice.options.reverse.find? fun option =>
    option.1 == letter).orElse fun _ => choice.options.reverse.find? fun option => option.1 == 'C'
  match given with
  | some (_, text) =>
    match count? text with
    | some n => return some n
    | none => refuseSearch (text ++ ": invalid context length argument")
  | none => return digitsChosen? choice

/-- Why an expression is refused that looks like a set that was meant to be in brackets. -/
def looksLikeKind (text : String) : Bool :=
  text.length > 3 && text.startsWith "[:" && text.endsWith ":]"

/-- The expression that a line of the patterns is. -/
def expressionOf (choice : Flags.Choice) (line : String) : Effect Regex := do
  let kind := (choice.options.reverse.find? fun option => "EFGP".toList.contains option.1).map (·.1)
  if kind == some 'F' then return literally line.toList
  if looksLikeKind line then
    refuseSearch "character class syntax is [[:space:]], not [:space:]"
  let form : Regex.Form :=
    if kind == some 'E' then { Regex.Form.extendedForm with stray := .skipped }
    else if kind == some 'P' then Regex.Form.rich
    else .basic
  if kind == some 'E' then
    match line.toList with
    | '*' :: _ => blame "warning: * at start of expression"
    | '+' :: _ => blame "warning: + at start of expression"
    | '?' :: _ => blame "warning: ? at start of expression"
    | _ => pure ()
  match Regex.ofText form line with
  | .ok re => return re
  | .error flaw => refuseSearch flaw.message

/-- The texts of patterns that options and arguments give, and the other arguments. -/
def patternsOf (choice : Flags.Choice) : Effect (Option (List String × List String)) := do
  let given := choice.options.filter fun option => option.1 == 'e' || option.1 == 'f'
  let texts ← given.mapM fun option => do
    if option.1 == 'e' then return option.2.splitOn "\n"
    else
      match ← wholeText option.2 with
      | .ok text => return linesOf text
      | .error fault => refuseSearch (option.2 ++ ": " ++ fault.reason)
  if given.isEmpty then
    match choice.operands with
    | [] => return none
    | text :: rest => return some (text.splitOn "\n", rest)
  else return some (texts.flatten, choice.operands)

/-- Searches files as options ask for. -/
def searchAll (choice : Flags.Choice) (patterns arguments : List String) : Effect Unit := do
  let expressions ← patterns.mapM (expressionOf choice)
  let case := choice.options.reverse.find? fun option => "iyW".toList.contains option.1
  let wanted : Wanted :=
    ⟨expressions, case.any (·.1 != 'W'), choice.has 'w', choice.has 'x'⟩
  let before ← contextOf choice 'B'
  let after ← contextOf choice 'A'
  let most ← match choice.value? 'm' with
    | none => pure none
    | some text =>
      match count? text with
      | some n => pure (some n)
      | none =>
        if text.startsWith "-" && (count? (text.drop 1).toString).isSome then pure none
        else refuseSearch "invalid max count"
  if most == some 0 then throw (.exit 1)
  let usesContext := before.isSome || after.isSome
  let separator := if !usesContext || choice.has 'N' then none
    else some ((choice.value? 'S').getD "--")
  let w := (← state).world
  let files := searchedFiles choice w arguments
  let isRecursive := choice.has 'r' || choice.has 'R'
  let naming := choice.options.reverse.find? fun option => option.1 == 'H' || option.1 == 'h'
  let named := match naming with
    | some option => option.1 == 'H'
    | none => 1 < arguments.length || (isRecursive && (arguments.isEmpty
        || (arguments.any fun argument =>
          Condition.leadsTo w argument Node.isDirectory)))
  let showing : Showing :=
    { wanted
      choice
      before := before.getD 0
      after := after.getD 0
      separator
      most
      ending := if choice.has 'z' then '\x00' else '\n'
      named
      colored := choice.value? 'K' == some "always" }
  let found ← files.foldlM (fun found argument => showing.file argument found)
    (⟨false, false, false⟩ : Found)
  setStatus (if found.hasFailed && !(choice.has 'q' && found.isFound) then 2
    else if found.isFound then 0 else 1)

/-- Shows the lines that match expressions. -/
def grep (arguments : List String) : Effect Unit :=
  match grepFlags.read arguments with
  | .error flaw => blameSearch flaw.complaint
  | .ok choice => do
    match ← patternsOf choice with
    | none =>
      complain "Usage: grep [OPTION]... PATTERNS [FILE]..."
      complain "Try 'grep --help' for more information."
      setStatus 2
    | some (patterns, files) => searchAll choice patterns files

end Utility
end Shell
end SuiteCoverage
