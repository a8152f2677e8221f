import SuiteCoverage.Regex.Reading
import SuiteCoverage.Shell.Utility.Excerpts

/-!
# Giving texts another form

The utilities that turn texts around, put their lines side by side, break them or divide them, and
pass them on.
-/

set_option autoImplicit false

namespace SuiteCoverage
namespace Shell
namespace Utility

open Effect

/-! ## Turning around -/

/-- The pieces of a text that end in a separator, with it. -/
def separatedPieces (separator : List Char) : Nat → List Char → List Char → List (List Char)
  | 0, current, text => [current.reverse ++ text]
  | _, [], [] => []
  | _, current, [] => [current.reverse]
  | fuel + 1, current, c :: rest =>
    if separator.isPrefixOf (c :: rest) then
      (current.reverse ++ separator)
        :: separatedPieces separator fuel [] ((c :: rest).drop separator.length)
    else separatedPieces separator fuel (c :: current) rest

/-- The pieces of a text that start with a separator. -/
def precededPieces (separator : List Char) (text : List Char) : List (List Char) :=
  let reversed := separatedPieces separator.reverse (text.length + 1) [] text.reverse
  (reversed.map List.reverse).reverse

/-- The pieces of a text that end in a separator given by an expression. Separators are looked for
    from the end, each as far to the right as it can be. -/
def piecesBy (re : Regex) (before : Bool) (subject : Subject) :
    Nat → Nat → Nat → List (List Char) → List (List Char)
  | 0, _, stop, found => (subject.text.extract 0 stop).toList :: found
  | fuel + 1, start, stop, found =>
    let cut (first last : Nat) : List Char := (subject.text.extract first last).toList
    match (List.range start).reverse.findSome? fun i =>
        (re.matchAt? { subject with text := subject.text.extract 0 start } i).filter
          fun m => m.first < m.last with
    | none => if stop == 0 then found else cut 0 stop :: found
    | some m =>
      let place := if before then m.first else m.last
      let found := if place < stop then cut place stop :: found else found
      piecesBy re before subject fuel m.first place found

/-- Shows texts with their last lines first. -/
def tac (arguments : List String) : Effect Unit :=
  withFlags 1
    ⟨"br".toList, "s".toList, [("before", 'b'), ("regex", 'r'), ("separator", 's')]⟩ arguments
    fun choice => do
      let separator := ((choice.value? 's').getD "\n").toList
      let re := (Regex.ofChars .basic separator).toOption.filter fun _ => choice.has 'r'
      let pieces (text : List Char) : List (List Char) :=
        match re with
        | some re =>
          let size := text.length
          piecesBy re (choice.has 'b') ⟨text.toArray, false, true⟩ (size + 1) size size []
        | none =>
          if choice.has 'b' then precededPieces separator text
          else separatedPieces separator (text.length + 1) [] text
      let results ← (orInput choice.operands).mapM fun argument => do
        match ← withNamed argument fun channel => readAll (some channel) with
        | .error fault =>
          blame ("failed to open " ++ Quoting.name argument ++ " for reading: " ++ fault.reason)
          return false
        | .ok (.error fault) =>
          blame (Quoting.nameIfNeeded argument ++ ": read error: " ++ fault.reason)
          return false
        | .ok (.ok text) =>
          say (String.ofList (pieces text.toList).reverse.flatten)
          return true
      Builtin.answer (results.all id)

/-- Shows texts with every line turned around. -/
def rev (arguments : List String) : Effect Unit :=
  withFlags 1 ⟨['0'], [], [("zero", '0')]⟩ arguments fun choice => do
    let step (kept : Unit) (line : InputLine) : Effect (Unit × Bool) := do
      sayLine { line with text := String.ofList line.text.toList.reverse }
      return (kept, true)
    let blameFor (argument : String) (fault : Fault) : Effect Unit :=
      blame ("cannot open " ++ argument ++ ": " ++ fault.reason)
    let (_, isRead) ← forLinesIn '\n' blameFor step (orInput choice.operands) ()
    Builtin.answer isRead

/-! ## Side by side -/

/-- The characters that a text with escapes stands for; nothing for an escape that stands for
    nothing. -/
def dividersOf : List Char → List (Option Char)
  | '\\' :: 'n' :: rest => some '\n' :: dividersOf rest
  | '\\' :: 't' :: rest => some '\t' :: dividersOf rest
  | '\\' :: '0' :: rest => none :: dividersOf rest
  | '\\' :: '\\' :: rest => some '\\' :: dividersOf rest
  | '\\' :: 'b' :: rest => some '\x08' :: dividersOf rest
  | '\\' :: 'f' :: rest => some '\x0c' :: dividersOf rest
  | '\\' :: 'r' :: rest => some '\r' :: dividersOf rest
  | '\\' :: 'v' :: rest => some '\x0b' :: dividersOf rest
  | c :: rest => some c :: dividersOf rest
  | [] => []

/-- Texts with dividers between them, taken in turn. -/
def joinedBy (dividers : List (Option Char)) : List String → String
  | [] => ""
  | first :: rest =>
    let later := rest.zipIdx.map fun (text, i) =>
      (((dividers[i % dividers.length]?).bind id).elim "" String.singleton) ++ text
    first ++ String.join later

/-- Rows made of the lines of several texts. -/
def rowsOf (dividers : List (Option Char)) (columns : List (List String)) : List String :=
  let height := (columns.map List.length).foldl max 0
  (List.range height).map fun i => joinedBy dividers (columns.map fun lines => lines[i]?.getD "")

/-- The lines of texts, with what is read from the input dealt out in turn to the places where it is
    named. -/
def dealt (texts : List (Option (List String))) (input : List String) : List (List String) :=
  let hands := (texts.filter Option.isNone).length
  let step (found : List (List String) × Nat) (text : Option (List String)) :
      List (List String) × Nat :=
    match text with
    | some lines => (found.1 ++ [lines], found.2)
    | none =>
      let mine := (input.zipIdx.filter fun entry => entry.2 % hands == found.2).map (·.1)
      (found.1 ++ [mine], found.2 + 1)
  (texts.foldl step ([], 0)).1

/-- Whether a text ends in an escape of nothing. -/
def endsInEscape : List Char → Bool
  | ['\\'] => true
  | '\\' :: _ :: rest => endsInEscape rest
  | _ :: rest => endsInEscape rest
  | [] => false

/-- Puts the lines of texts side by side. -/
def paste (arguments : List String) : Effect Unit :=
  withFlags 1
    ⟨"sz".toList, "d".toList, [("serial", 's'), ("delimiters", 'd'), ("zero-terminated", 'z')]⟩
    arguments fun choice => do
      let ending := if choice.has 'z' then '\x00' else '\n'
      let list := (choice.value? 'd').getD "\t"
      let dividers := if list.isEmpty then [none] else dividersOf list.toList
      if endsInEscape list.toList then
        blame ("delimiter list ends with an unescaped backslash: " ++ list)
        throw (.exit 1)
      let names := orInput choice.operands
      let lines (text : String) : List String :=
        (endedPieces ending text).map fun piece =>
          if piece.toList.getLast? == some ending then (piece.dropEnd 1).toString else piece
      let isInput (argument : String) : Bool := argument == "-" && !choice.has 's'
      let find (argument : String) : Effect (Option (Option (List String))) := do
        if isInput argument then return some none
        match ← wholeText argument with
        | .ok text => return some (some (lines text))
        | .error fault =>
          blameName argument fault
          return none
      let found ← names.mapM find
      let isRead := found.all Option.isSome
      let texts := found.filterMap id
      if choice.has 's' then
        texts.forM fun text =>
          say ((joinedBy dividers (text.getD [])).push ending)
      else if isRead then
        let input ← if texts.any Option.isNone then do
            pure (lines (((← readInput).toOption).getD ""))
          else pure []
        say (String.join ((rowsOf dividers (dealt texts input)).map (·.push ending)))
      Builtin.answer isRead

/-! ## Breaking lines -/

/-- The column behind a character. -/
def columnAfter (inBytes : Bool) (column : Nat) (c : Char) : Nat :=
  if inBytes then column + 1
  else if c == '\x08' then column - 1
  else if c == '\r' then 0
  else if c == '\t' then column + 8 - column % 8
  else column + 1

/-- A line broken so that its pieces are not wider than asked for; `current` is the piece so far,
    its last character first. -/
def foldedUpTo (inBytes atBlanks : Bool) (width : Nat) :
    Nat → Nat → List Char → List Char → List (List Char)
  | 0, _, current, rest => [current.reverse ++ rest]
  | _, _, current, [] => [current.reverse]
  | fuel + 1, column, current, c :: rest =>
    let after := columnAfter inBytes column c
    if after ≤ width || current.isEmpty then
      foldedUpTo inBytes atBlanks width fuel after (c :: current) rest
    else
      let behind := current.takeWhile fun d => d != ' ' && d != '\t'
      let before := current.drop behind.length
      if atBlanks && !before.isEmpty then
        let column := behind.reverse.foldl (columnAfter inBytes) 0
        before.reverse :: foldedUpTo inBytes atBlanks width fuel column behind (c :: rest)
      else current.reverse :: foldedUpTo inBytes atBlanks width fuel 0 [] (c :: rest)

/-- Arguments with a number behind a hyphen made the value of an option. -/
def withNumberAs (option : String) (arguments : List String) : List String :=
  arguments.flatMap fun argument =>
    match argument.toList with
    | '-' :: c :: rest =>
      if (c :: rest).all Char.isDigit then [option, String.ofList (c :: rest)] else [argument]
    | _ => [argument]

/-- Breaks long lines. -/
def fold (arguments : List String) : Effect Unit :=
  withFlags 1 ⟨"bs".toList, "w".toList, [("bytes", 'b'), ("spaces", 's'), ("width", 'w')]⟩
    (withNumberAs "-w" arguments) fun choice => do
      let text := (choice.value? 'w').getD "80"
      match (count? text).filter (0 < ·) with
      | none =>
        blame ("invalid number of columns: " ++ Quoting.name text)
        setStatus 1
      | some width =>
        let step (kept : Unit) (line : InputLine) : Effect (Unit × Bool) := do
          let chars := line.text.toList
          let pieces := foldedUpTo (choice.has 'b') (choice.has 's') width
            (2 * chars.length + 1) 0 [] chars
          sayLine { line with text := "\n".intercalate (pieces.map String.ofList) }
          return (kept, true)
        let (_, isRead) ← forLinesIn '\n' blameName step (orInput choice.operands) ()
        Builtin.answer isRead

/-! ## Tabs -/

/-- The column of the next tab stop. Behind the last of several stops every column is one. -/
def nextStop (stops : List Nat) (column : Nat) : Nat :=
  match stops with
  | [] => column + 8 - column % 8
  | [0] => column + 1
  | [width] => column + width - column % width
  | several => (several.find? (column < ·)).getD (column + 1)

/-- The tab stops of options, or what is wrong with them. -/
def stopsOf (choice : Flags.Choice) : Except String (List Nat) := do
  let texts := (choice.options.filter (·.1 == 't')).flatMap fun option =>
    (splitBy (fun c => c == ',' || c == ' ' || c == '\t') option.2.toList).filter (!·.isEmpty)
  let stops ← texts.mapM fun text =>
    match text.find? (!·.isDigit) with
    | some _ =>
      let rest := text.dropWhile Char.isDigit
      throw ("tab size contains invalid character(s): " ++ Quoting.name (String.ofList rest))
    | none => pure (((String.ofList text).toNat?).getD 0)
  if stops.contains 0 then throw "tab size cannot be 0"
  if (stops.zip (stops.drop 1)).any fun pair => pair.2 ≤ pair.1 then
    throw "tab sizes must be ascending"
  return stops

/-- Carries out an effect with the tab stops of options. -/
def withStops (choice : Flags.Choice) (effect : List Nat → Effect Unit) : Effect Unit :=
  match stopsOf choice with
  | .ok stops => effect stops
  | .error complaint => do
    blame complaint
    setStatus 1

/-- A line with blanks in place of its tabs. -/
def expanded (isInitial : Bool) (stops : List Nat) :
    Nat → Bool → List Char → List Char
  | _, _, [] => []
  | column, atStart, c :: rest =>
    let active := atStart || !isInitial
    if c == '\t' && active then
      let stop := nextStop stops column
      List.replicate (stop - column) ' ' ++ expanded isInitial stops stop atStart rest
    else
      let after := if c == '\x08' then column - 1 else column + 1
      c :: expanded isInitial stops after (atStart && (c == ' ' || c == '\t')) rest

/-- Shows texts with blanks in place of tabs. -/
def expand (arguments : List String) : Effect Unit :=
  withFlags 1 ⟨"i".toList, "t".toList, [("initial", 'i'), ("tabs", 't')]⟩
    (withNumberAs "-t" arguments) fun choice => withStops choice fun stops => do
      let step (kept : Unit) (line : InputLine) : Effect (Unit × Bool) := do
        let text := expanded (choice.has 'i') stops 0 true line.text.toList
        sayLine { line with text := String.ofList text }
        return (kept, true)
      let (_, isRead) ← forLinesIn '\n' blameName step (orInput choice.operands) ()
      Builtin.answer isRead

/-- Blanks from one column to another, with tabs where they reach a stop. A single blank before a
    stop stays one. -/
def blanksTo (stops : List Nat) (isLong : Bool) : Nat → Nat → Nat → List Char
  | 0, column, target => List.replicate (target - column) ' '
  | fuel + 1, column, target =>
    let stop := nextStop stops column
    if stop ≤ target && (isLong || 1 < stop - column) && (stops.length ≤ 1 || stops.contains stop)
    then '\t' :: blanksTo stops true fuel stop target
    else List.replicate (target - column) ' '

/-- A line with tabs in place of its blanks where they reach tab stops. -/
def unexpanded (isAll : Bool) (stops : List Nat) :
    Nat → Nat → Bool → List Char → List Char
  | 0, _, _, text => text
  | fuel + 1, column, atStart, text =>
    let blanks := text.takeWhile fun c => c == ' ' || c == '\t'
    match text.drop blanks.length with
    | rest =>
      if blanks.isEmpty then
        match rest with
        | [] => []
        | c :: more => c :: unexpanded isAll stops fuel (column + 1) false more
      else
        let target := blanks.foldl
          (fun column c => if c == '\t' then nextStop stops column else column + 1) column
        let kept := if atStart || isAll then
            if blanks.length == 1 && blanks == [' '] then blanks
            else blanksTo stops (blanks.contains '\t' || atStart) (target + 1) column target
          else blanks
        kept ++ unexpanded isAll stops fuel target false rest

/-- Shows texts with tabs in place of blanks. -/
def unexpand (arguments : List String) : Effect Unit :=
  withFlags 1 ⟨"af".toList, "t".toList, [("all", 'a'), ("first-only", 'f'), ("tabs", 't')]⟩
    (withNumberAs "-t" arguments) fun choice => withStops choice fun stops => do
      let isAll := (choice.has 'a' || choice.has 't') && !choice.has 'f'
      let step (kept : Unit) (line : InputLine) : Effect (Unit × Bool) := do
        let chars := line.text.toList
        let text := unexpanded isAll stops (chars.length + 1) 0 true chars
        sayLine { line with text := String.ofList text }
        return (kept, true)
      let (_, isRead) ← forLinesIn '\n' blameName step (orInput choice.operands) ()
      Builtin.answer isRead

/-! ## Passing on -/

/-- Copies what can be read from the input to channels. -/
def passOn : Nat → List (Option Channel) → Effect Bool
  | 0, _ => return true
  | fuel + 1, channels => do
    match ← readSome ((← state).channelOf 0) Pipe.capacity with
    | .error fault =>
      blame ("read error: " ++ fault.reason)
      return false
    | .ok bytes =>
      if bytes.isEmpty then return true
      tick 1
      let results ← channels.mapM fun channel => writeBytes channel bytes
      let isWritten ← passOn fuel channels
      return isWritten && results.all Option.isNone

/-- Copies the input to the output and to files. -/
def tee (arguments : List String) : Effect Unit :=
  withFlags 1
    ⟨"aip".toList, ['o'], [("append", 'a'), ("ignore-interrupts", 'i'), ("output-error", 'o')]⟩
    arguments fun choice => do
      if choice.has 'i' then change fun s => { s with ignored := 2 :: s.ignored }
      let opened ← choice.operands.mapM fun argument => do
        let p := pathOf argument
        let w := (← state).world
        match if choice.has 'a' then w.append p .empty else w.write p .empty with
        | .ok world =>
          change fun s => { s with world }
          let use : Use := if choice.has 'a' then .appending else .writing
          let channel ← Redirection.openAt use p
          change fun s => { s with held := channel :: s.held }
          return some channel
        | .error fault =>
          blameName argument fault
          return none
      let isWritten ← passOn readLimit ((← state).channelOf 1 :: (opened.filterMap id).map some)
      Builtin.answer (isWritten && opened.all Option.isSome)

/-- Writes a text again and again. -/
def repeatText (text : String) : Nat → Effect Unit
  | 0 => pure ()
  | fuel + 1 => do
    say text
    tick 20
    if (← state).shortfall.isNone then repeatText text fuel

/-- Writes its arguments again and again. -/
def yes (arguments : List String) : Effect Unit := do
  match (Flags.mk [] [] []).readFront arguments with
  | .error flaw =>
    blameCall flaw.complaint
    throw (.exit 1)
  | .ok _ => pure ()
  let arguments := if arguments.head? == some "--" then arguments.drop 1 else arguments
  let line := (if arguments.isEmpty then "y" else " ".intercalate arguments) ++ "\n"
  repeatText (String.join (List.replicate (4096 / line.length + 1) line)) readLimit
  setStatus 1

/-! ## Dividing -/

/-- The letters behind the name of a part. -/
def partEnding (digits : Bool) (width n : Nat) : String :=
  let base := if digits then 10 else 26
  let step (found : List Char × Nat) (_ : Nat) : List Char × Nat :=
    let digit := found.2 % base
    let c := if digits then Char.ofNat ('0'.toNat + digit) else Char.ofNat ('a'.toNat + digit)
    (c :: found.1, found.2 / base)
  String.ofList ((List.range width).foldl step ([], n)).1

/-- Groups of so many items. -/
def chunksOf {α : Type} (size : Nat) : Nat → List α → List (List α)
  | 0, items => [items]
  | _, [] => []
  | fuel + 1, items => items.take size :: chunksOf size fuel (items.drop size)

/-- The options of `split`. -/
def splitFlags : Flags :=
  ⟨"dexuz".toList, "abClnt".toList,
    [("suffix-length", 'a'), ("bytes", 'b'), ("line-bytes", 'C'), ("lines", 'l'),
      ("number", 'n'), ("numeric-suffixes", 'd'), ("elide-empty-files", 'e'),
      ("separator", 't')]⟩

/-- What is wrong with a number among the options of `split`, if anything is. -/
def splitFlaw? (choice : Flags.Choice) : Option String :=
  (choice.options.find? fun option =>
    "bCln".toList.contains option.1 && ((size? option.2).filter (0 < ·)).isNone).map
      fun (letter, text) =>
        let kind := if letter == 'l' then "lines" else if letter == 'n' then "chunks" else "bytes"
        "invalid number of " ++ kind ++ ": " ++ Quoting.name text

/-- Divides a text into files. -/
def split (arguments : List String) : Effect Unit :=
  withFlags 1 splitFlags (withNumberAs "-l" arguments) fun choice => do
    (splitFlaw? choice).forM fun flaw => do
      blame flaw
      throw (.exit 1)
    let name := choice.operands.headD "-"
    let start := (choice.operands.drop 1).headD "x"
    match ← wholeText name with
    | .error fault =>
      blame ("cannot open " ++ Quoting.name name ++ " for reading: " ++ fault.reason)
      setStatus 1
    | .ok text =>
      let amount (letter : Char) : Option Nat := (choice.value? letter).bind size?
      let parts : List String := match amount 'b', amount 'n' with
        | some size, _ => (chunksOf size text.length text.toList).map String.ofList
        | none, some count =>
          let size := text.length / count
          (List.range count).map fun i =>
            let rest := text.toList.drop (i * size)
            String.ofList (if i + 1 == count then rest else rest.take size)
        | none, none =>
          let pieces := endedPieces '\n' text
          (chunksOf ((amount 'l').getD 1000) pieces.length pieces).map String.join
      let width := (amount 'a').getD 2
      let results ← parts.zipIdx.mapM fun (part, i) => do
        let p := pathOf (start ++ partEnding (choice.has 'd') width i)
        match (← state).world.write p (toBytes part) with
        | .ok world =>
          change fun s => { s with world }
          return true
        | .error fault =>
          blame (ofText p.spelling ++ ": " ++ fault.reason)
          return false
      Builtin.answer (results.all id)

end Utility
end Shell
end SuiteCoverage
