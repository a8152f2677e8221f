import SuiteCoverage.Shell.Redirection
import SuiteCoverage.Shell.Utility.Basic
import SuiteCoverage.Text.Column

/-!
# Utilities that show

The utilities that show files and directories, take paths apart, count, and show the environment.
-/

set_option autoImplicit false

/-!
## Showing texts

A text is shown as it is, or with numbers in front of its lines, with signs for characters that
cannot be seen, and without all but the first of empty lines that follow each other.
-/

namespace SuiteCoverage
namespace Shell
namespace Utility

/-- How a text is shown. -/
structure Display where
  /-- Whether lines have numbers. -/
  numbers : Bool
  /-- Whether empty lines have none. -/
  skipsEmpty : Bool
  /-- Whether the ends of lines can be seen. -/
  ends : Bool
  tabs : Bool
  /-- Whether characters that cannot be seen are told by signs. -/
  signs : Bool
  /-- Whether one of several empty lines is shown. -/
  squeezes : Bool

namespace Display

/-- A text as it is. -/
def asItIs : Display := ⟨false, false, false, false, false, false⟩

/-- How far texts have been shown. -/
structure Progress where
  /-- The number of the next line. -/
  number : Nat
  /-- The number of line ends since the last character of a line; `none` inside a line. -/
  ends : Option Nat

/-- Before anything has been shown. -/
def Progress.start : Progress := ⟨1, some 0⟩

/-- The sign for a character with seven bits. -/
def signOf (code : Nat) : List Char :=
  if code < 32 then ['^', Char.ofNat (code + 64)]
  else if code = 127 then ['^', '?']
  else [Char.ofNat code]

/-- A character that ends no line, as it is shown. -/
def character (display : Display) (c : Char) : List Char :=
  if c = '\t' then (if display.tabs then ['^', 'I'] else ['\t'])
  else if !display.signs then [c]
  else if c.toNat < 128 then signOf c.toNat
  else 'M' :: '-' :: signOf (c.toNat - 128)

/-- What stands in front of a line. -/
def front (number : Nat) : List Char :=
  (Text.padLeft 6 (toString number)).toList ++ ['\t']

/-- A text as it is shown after others, and how far texts have been shown then. -/
def shown (display : Display) : Progress → List Char → List Char × Progress
  | progress, [] => ([], progress)
  | progress, '\n' :: rest =>
    let count := progress.ends.elim 0 (· + 1)
    if display.squeezes && 2 ≤ count then shown display progress rest
    else
      let isNumbered := display.numbers && !display.skipsEmpty && 1 ≤ count
      let number := if isNumbered then progress.number + 1 else progress.number
      let (after, last) := shown display ⟨number, some count⟩ rest
      ((if isNumbered then front progress.number else [])
        ++ (if display.ends then ['$'] else []) ++ '\n' :: after, last)
  | progress, c :: rest =>
    let isNumbered := display.numbers && progress.ends.isSome
    let number := if isNumbered then progress.number + 1 else progress.number
    let isBeforeEnd := display.ends && c == '\r' && rest.head? == some '\n'
    let (after, last) := shown display ⟨number, none⟩ rest
    ((if isNumbered then front progress.number else [])
      ++ (if isBeforeEnd then ['^', 'M'] else display.character c) ++ after, last)

end Display
end Utility
end Shell
end SuiteCoverage

namespace SuiteCoverage
namespace Shell
namespace Utility

open Effect

/-! ## Files -/

/-- Whether a path leads to the file that the output leads to. -/
def isOutputPath (s : State) (argument : String) : Bool :=
  match s.world.locate .through (pathOf argument), s.channelOf 1 with
  | .ok (.present loc _), some (.opened number) =>
    (s.openingOf number).any fun opening => opening.origin == .file loc
  | _, _ => false

/-- The text that an argument leads to: that of a file or, for a hyphen, what is left of the input.
    A file that has content is not shown to itself. -/
def textOf (argument : String) : Effect (Except String String) := do
  let s ← state
  let start := Quoting.nameIfNeeded argument ++ ": "
  let opened := Redirection.descriptorAt? argument
  if argument == "-" || opened.any fun number => (s.channelOf number).isSome then
    match ← readAll (s.channelOf (opened.getD 0)) with
    | .ok text => return .ok text
    | .error fault => return .error (start ++ fault.reason)
  else
    match s.world.readBytes (pathOf argument) with
    | .ok content =>
      if isOutputPath s argument && content.size != 0 then
        return .error (start ++ "input file is output file")
      else return .ok (ofBytes content)
    | .error fault => return .error (start ++ fault.reason)

/-- The options of `cat`. -/
def catFlags : Flags :=
  ⟨"AbeEnstTuv".toList, [],
    [("number-nonblank", 'b'), ("number", 'n'), ("squeeze-blank", 's'),
      ("show-nonprinting", 'v'), ("show-ends", 'E'), ("show-tabs", 'T'), ("show-all", 'A')]⟩

/-- How texts are shown with the options of `cat`. -/
def displayOf (choice : Flags.Choice) : Display where
  numbers := choice.has 'n' || choice.has 'b'
  skipsEmpty := choice.has 'b'
  ends := "AeE".toList.any choice.has
  tabs := "AtT".toList.any choice.has
  signs := "Aetv".toList.any choice.has
  squeezes := choice.has 's'

/-- Shows texts one after the other, and tells whether all of them could be. -/
def showTexts (display : Display) : Display.Progress → List String → Effect Bool
  | _, [] => return true
  | progress, argument :: rest => do
    match ← textOf argument with
    | .ok text =>
      let (shown, after) := display.shown progress text.toList
      say (String.ofList shown)
      showTexts display after rest
    | .error complaint =>
      blame complaint
      let _ ← showTexts display progress rest
      return false

/-- Shows files, or the input. -/
def cat (arguments : List String) : Effect Unit :=
  withFlags 1 catFlags arguments fun choice => do
    let s ← state
    if (s.channelOf 1).isNone then
      blame ("standard output: " ++ Fault.badDescriptor.reason)
      setStatus 1
    else
      let names := if choice.operands.isEmpty then ["-"] else choice.operands
      let isWhole ← showTexts (displayOf choice) .start names
      let isClosed := names.contains "-" && (s.channelOf 0).isNone
      if isClosed then blame ("closing standard input: " ++ Fault.badDescriptor.reason)
      Builtin.answer (isWhole && !isClosed)

/-! ## Paths -/

/-- A text without the separators at its end, unless it has nothing else. -/
def withoutEndSeparators (text : List Char) : List Char :=
  match (text.reverse.dropWhile (· == '/')).reverse with
  | [] => text.take 1
  | kept => kept

/-- The part of a path behind its last separator, without an ending. -/
def lastPart (ending path : String) : String :=
  let kept := withoutEndSeparators path.toList
  let name := if kept = ['/'] then kept else (kept.reverse.takeWhile (· != '/')).reverse
  if ending.toList.isSuffixOf name && ending.length < name.length then
    String.ofList (name.take (name.length - ending.length))
  else String.ofList name

/-- The part of a path before its last separator. -/
def partBefore (path : String) : String :=
  let before := ((withoutEndSeparators path.toList).reverse.dropWhile (· != '/')).reverse
  if before.isEmpty then "." else String.ofList (withoutEndSeparators before)

/-- Writes texts, each with the end of a line behind it or, if asked so, with a zero. -/
def sayEach (choice : Flags.Choice) (texts : List String) : Effect Unit := do
  say (String.join (texts.map (· ++ if choice.has 'z' then "\x00" else "\n")))
  Builtin.answer true

/-- The options of `basename`. -/
def basenameFlags : Flags :=
  ⟨"az".toList, "s".toList, [("multiple", 'a'), ("suffix", 's'), ("zero", 'z')]⟩

/-- Writes the last parts of paths. -/
def basename (arguments : List String) : Effect Unit :=
  withFlags 1 basenameFlags arguments fun choice =>
    let ending := choice.value? 's'
    match choice.operands with
    | [] => blameCall "missing operand"
    | path :: rest =>
      if choice.has 'a' || ending.isSome then
        sayEach choice (choice.operands.map (lastPart (ending.getD "")))
      else
        match rest with
        | _ :: extra :: _ => blameCall ("extra operand " ++ Quoting.name extra)
        | _ => sayEach choice [lastPart (rest.headD "") path]

/-- Writes the parts of paths before their last parts. -/
def dirname (arguments : List String) : Effect Unit :=
  withFlags 1 ⟨['z'], [], [("zero", 'z')]⟩ arguments fun choice =>
    if choice.operands.isEmpty then blameCall "missing operand"
    else sayEach choice (choice.operands.map partBefore)

/-! ## Times -/

/-- The time that a text tells, in millionths of a second: a decimal number of seconds, or of what
    the letter behind it stands for. -/
def duration? (text : String) : Option Nat :=
  let chars := text.toList
  let units := [('s', 1), ('m', 60), ('h', 3600), ('d', 86400)]
  let unit := units.find? fun entry => chars.getLast? == some entry.1
  let kept := if unit.isSome then chars.dropLast else chars
  let whole := kept.takeWhile Char.isDigit
  let fraction := match kept.drop whole.length with
    | [] => if whole.isEmpty then none else some []
    | '.' :: rest =>
      if rest.all Char.isDigit && !(whole.isEmpty && rest.isEmpty) then some rest else none
    | _ => none
  fraction.bind fun fraction => do
    let seconds ← if whole.isEmpty then some 0 else (String.ofList whole).toNat?
    let parts ← (String.ofList ((fraction ++ List.replicate 6 '0').take 6)).toNat?
    return (seconds * Duration.second + parts) * (unit.map (·.2)).getD 1

/-- Waits for a time. -/
def sleepFor (time : Nat) : Effect Unit := do
  let start := (← state).time
  pause (fun _ => false) (some (start + time)) false

/-- Waits. -/
def sleep (arguments : List String) : Effect Unit :=
  withFlags 1 ⟨[], [], []⟩ arguments fun choice => do
    let isTime (text : String) : Bool := (duration? text).isSome || text == "infinity"
    let wrong := choice.operands.filter fun text => !isTime text
    if choice.operands.isEmpty then blameCall "missing operand"
    else if wrong.isEmpty then
      if choice.operands.contains "infinity" then pause (fun _ => false) none false
      else sleepFor ((choice.operands.filterMap duration?).foldl (· + ·) 0)
      Builtin.answer true
    else
      (wrong.dropLast).forM fun text => blame ("invalid time interval " ++ Quoting.name text)
      blameCall ("invalid time interval " ++ Quoting.name (wrong.getLastD ""))

/-! ## Texts -/

/-- Writes arguments. -/
def echo (arguments : List String) : Effect Unit := do
  say (Format.echoProgram arguments)
  Builtin.answer true

/-- Writes formatted text. Arguments that the format has no use for are worth a word. -/
def printf (arguments : List String) : Effect Unit := do
  let words := if arguments.head? == some "--" then arguments.drop 1 else arguments
  match words with
  | [] => blameCall "missing operand"
  | format :: values =>
    let printing := Format.printf .program 0 format values
    say (String.ofList printing.output)
    printing.complaints.forM blame
    match printing.arguments with
    | extra :: _ =>
      if printing.goesOn then
        blame ("warning: ignoring excess arguments, starting with " ++ Quoting.name extra)
    | [] => pure ()
    Builtin.answer printing.complaints.isEmpty

/-! ## The environment -/

/-- Shows values of the environment. -/
def printenv (arguments : List String) : Effect Unit :=
  withFlags 2 ⟨['0'], [], [("null", '0')]⟩ arguments fun choice => do
    let s ← state
    let write (texts : List String) : Effect Unit :=
      say (String.join (texts.map (· ++ if choice.has '0' then "\x00" else "\n")))
    if choice.operands.isEmpty then
      write (s.values.map fun entry => entry.1 ++ "=" ++ entry.2)
      Builtin.answer true
    else
      let found := choice.operands.filterMap (valueOf s)
      write found
      Builtin.answer (found.length == choice.operands.length)

end Utility
end Shell
end SuiteCoverage
