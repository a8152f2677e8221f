import SuiteCoverage.Regex.Reading
import SuiteCoverage.Shell.Utility.Excerpts
import SuiteCoverage.Text.Column

/-!
# Counting what is in texts
-/

set_option autoImplicit false

namespace SuiteCoverage
namespace Shell
namespace Utility

open Effect

/-- What has been counted in a text. -/
structure Tally where
  lines : Nat
  words : Nat
  bytes : Nat
  /-- The width of its widest line. -/
  width : Nat

namespace Tally

/-- Nothing has been counted. -/
def zero : Tally := ⟨0, 0, 0, 0⟩

/-- What has been counted in two texts. -/
def add (a b : Tally) : Tally :=
  ⟨a.lines + b.lines, a.words + b.words, a.bytes + b.bytes, max a.width b.width⟩

/-- The characters between words. -/
def isSpace (c : Char) : Bool := c == ' ' || ('\t' ≤ c && c ≤ '\r')

/-- Counts what is in a text. -/
def ofText (text : String) : Tally :=
  let step (found : Tally × Nat × Bool) (c : Char) : Tally × Nat × Bool :=
    let (tally, column, inWord) := found
    let tally := { tally with bytes := tally.bytes + 1 }
    let widened (column : Nat) : Tally := { tally with width := max tally.width column }
    if c == '\n' then ({ widened column with lines := tally.lines + 1 }, 0, false)
    else if c == '\r' || c == '\x0c' then (widened column, 0, false)
    else if c == '\t' then (tally, column + 8 - column % 8, false)
    else if isSpace c then (tally, if c == ' ' then column + 1 else column, false)
    else if Quoting.isVisible c then
      (if inWord then tally else { tally with words := tally.words + 1 }, column + 1, true)
    else (tally, column, inWord)
  let (tally, column, _) := text.toList.foldl step (zero, 0, false)
  { tally with width := max tally.width column }

end Tally

/-- The options of `wc`. -/
def wcFlags : Flags :=
  ⟨"clmwL".toList, "TF".toList,
    [("bytes", 'c'), ("chars", 'm'), ("lines", 'l'), ("words", 'w'), ("max-line-length", 'L'),
      ("total", 'T'), ("files0-from", 'F')]⟩

/-- The numbers of a tally that options ask for. -/
def tallied (choice : Flags.Choice) (tally : Tally) : List Nat :=
  let isAsked (letter : Char) : Bool :=
    choice.has letter || ("lwc".toList.contains letter && !("clmwL".toList.any choice.has))
  let shown (letter : Char) (n : Nat) : List Nat := if isAsked letter then [n] else []
  shown 'l' tally.lines ++ shown 'w' tally.words ++ shown 'm' tally.bytes
    ++ shown 'c' tally.bytes ++ shown 'L' tally.width

/-- A line with the numbers of a tally. -/
def tallyLine (choice : Flags.Choice) (width : Nat) (tally : Tally) (name : Option String) :
    String :=
  " ".intercalate ((tallied choice tally).map fun n => Text.padLeft width (toString n))
    ++ (name.elim "" (" " ++ ·)) ++ "\n"

/-- The size of a file that an argument names; `none` if it names something else. -/
def regularSize? (s : State) (argument : String) : Option (Option Nat) :=
  if argument == "-" then
    match s.channelOf 0 with
    | some (.opened number) =>
      (s.openingOf number).map fun opening =>
        match opening.origin with
        | .file _ => some (contentOf s opening).size
        | .text => some opening.text.size
        | .pipe _ => none
    | some _ => some none
    | none => none
  else
    match s.world.stat (pathOf argument) with
    | .ok (.file content _) => some (some content.size)
    | .ok (.program name) => some (some name.utf8ByteSize)
    | .ok _ => some none
    | .error _ => none

/-- How wide numbers are shown. -/
def tallyWidth (s : State) (choice : Flags.Choice) (names : List String) : Nat :=
  if names.length == 1 && (tallied choice .zero).length == 1 then 1
  else
    let sizes := names.filterMap (regularSize? s)
    let total := (sizes.filterMap id).foldl (· + ·) 0
    max (toString total).length (if sizes.any Option.isNone then 7 else 1)

/-- Counts what is in texts. -/
def wc (arguments : List String) : Effect Unit :=
  withFlags 1 wcFlags arguments fun choice => do
    let names := orInput choice.operands
    let width := tallyWidth (← state) choice names
    let isShown (argument : String) : Option String :=
      if choice.operands.isEmpty then none else some argument
    let totals := (choice.value? 'T').getD "auto"
    let counted ← names.mapM fun argument => do
      let fail (fault : Fault) : Effect (Tally × Bool) := do
        blameName argument fault
        return (.zero, false)
      match ← withNamed argument fun channel => readAll (some channel) with
      | .error fault => fail fault
      | .ok (.error fault) =>
        let result ← fail fault
        if totals != "only" then say (tallyLine choice width .zero (isShown argument))
        return result
      | .ok (.ok text) =>
        let tally := Tally.ofText text
        if totals != "only" then say (tallyLine choice width tally (isShown argument))
        return (tally, true)
    let total := (counted.map (·.1)).foldl Tally.add .zero
    if totals == "only" then say (tallyLine choice 1 total none)
    else if totals == "always" || (totals == "auto" && 1 < names.length) then
      say (tallyLine choice width total (some "total"))
    Builtin.answer (counted.all (·.2))

/-! ## Lines with numbers -/

/-- The options of `nl`. -/
def nlFlags : Flags :=
  ⟨"p".toList, "bdfhilnsvw".toList,
    [("body-numbering", 'b'), ("section-delimiter", 'd'), ("footer-numbering", 'f'),
      ("header-numbering", 'h'), ("line-increment", 'i'), ("join-blank-lines", 'l'),
      ("number-format", 'n'), ("no-renumber", 'p'), ("number-separator", 's'),
      ("starting-line-number", 'v'), ("number-width", 'w')]⟩

/-- How far lines have been numbered. -/
structure Numbering where
  next : Int
  /-- The letter of the option for the part of a page. -/
  part : Char
  /-- The number of empty lines seen in a row. -/
  blanks : Nat

/-- A number as it stands in front of a line. -/
def lineNumber (form : String) (width : Nat) (n : Int) : String :=
  let text := toString n
  if form == "ln" then Text.padRight width text
  else if form == "rz" then
    let digits := toString n.natAbs
    let sign := if n < 0 then "-" else ""
    sign ++ String.ofList (List.replicate (width - sign.length - digits.length) '0') ++ digits
  else Text.padLeft width text

/-- Shows texts with numbers in front of their lines. -/
def nl (arguments : List String) : Effect Unit :=
  withFlags 1 nlFlags arguments fun choice => do
    let number (letter : Char) (usual : Int) : Int :=
      ((choice.value? letter).bind Arithmetic.decimal?).getD usual
    let width := (number 'w' 6).toNat
    let form := (choice.value? 'n').getD "rn"
    let between := (choice.value? 's').getD "\t"
    let usualStyle (letter : Char) : String := if letter == 'b' then "t" else "n"
    let styleOf (part : Char) : String := (choice.value? part).getD (usualStyle part)
    let sign := (choice.value? 'd').getD "\\:"
    let sign := if sign.length == 1 then sign ++ ":" else sign
    let first := number 'v' 1
    let group := (number 'l' 1).toNat
    let expression? (style : String) : Option Regex :=
      if style.toList.head? == some 'p' then
        (Regex.ofText .basic (style.drop 1).toString).toOption
      else none
    let step (kept : Numbering) (line : InputLine) : Effect (Numbering × Bool) := do
      let part? := if line.text == sign ++ sign ++ sign then some 'h'
        else if line.text == sign ++ sign then some 'b'
        else if line.text == sign then some 'f' else none
      match part? with
      | some part =>
        say "\n"
        let next := if part == 'h' && !choice.has 'p' then first else kept.next
        return (⟨next, part, 0⟩, true)
      | none =>
        let style := styleOf kept.part
        let blanks := if line.text.isEmpty then kept.blanks + 1 else 0
        let subject : Subject := ⟨line.text.toList.toArray, false, false⟩
        let isNumbered : Bool := match style.toList with
          | 'a' :: _ => !line.text.isEmpty || blanks % group == 0
          | 't' :: _ => !line.text.isEmpty
          | 'p' :: _ => (expression? style).any (·.isIn subject)
          | _ => false
        if isNumbered then
          say (lineNumber form width kept.next ++ between ++ line.text ++ "\n")
          return (⟨kept.next + number 'i' 1, kept.part, if blanks == group then 0 else blanks⟩, true)
        else
          let blank := String.ofList (List.replicate (width + between.length) ' ')
          say (blank ++ line.text ++ "\n")
          return (⟨kept.next, kept.part, blanks⟩, true)
    let (_, isRead) ← forLinesIn '\n' blameName step (orInput choice.operands) ⟨first, 'b', 0⟩
    Builtin.answer isRead

end Utility
end Shell
end SuiteCoverage
