import SuiteCoverage.Regex.Reading
import SuiteCoverage.Shell.Editing.Script

/-!
# Reading editing scripts

A script is read character by character. What is wrong with it is told with the number of characters
that had been read by then.
-/

set_option autoImplicit false

namespace SuiteCoverage
namespace Shell
namespace Editing

/-- What is wrong with a script. -/
inductive Flaw where
  | severalNegations
  | unexpectedComma
  | badFirst
  | badZero
  | openBrace
  | closedBrace
  | junk
  | textMissing
  | braceWithAddress
  | labelWithAddress
  | commentWithAddress
  | commandMissing
  | oneAddress
  | openAddress
  | openSubstitution
  | openTranslation
  | unknownOption
  | severalPrints
  | severalGlobals
  | severalNumbers
  | zeroNumber
  | unequalLengths
  | newerVersion
  | labelMissing
  | fileMissing
  | unknownCommand (c : Char)
  | badReference (number : Nat)
  | noPattern
  | emptyWithFlags
  | pattern (flaw : Regex.Flaw)
  /-- There is no such label. -/
  | noLabel (label : String)
deriving DecidableEq, Repr

/-- What is wrong with a script, in words. -/
def Flaw.message : Flaw → String
  | severalNegations => "multiple \u0060!'s"
  | unexpectedComma => "unexpected \u0060,'"
  | badFirst => "invalid usage of +N or ~N as first address"
  | badZero => "invalid usage of line address 0"
  | openBrace => "unmatched \u0060\x7b'"
  | closedBrace => "unexpected \u0060\x7d'"
  | junk => "extra characters after command"
  | textMissing => "expected \\ after \u0060a', \u0060c' or \u0060i'"
  | braceWithAddress => "\u0060\x7d' doesn't want any addresses"
  | labelWithAddress => ": doesn't want any addresses"
  | commentWithAddress => "comments don't accept any addresses"
  | commandMissing => "missing command"
  | oneAddress => "command only uses one address"
  | openAddress => "unterminated address regex"
  | openSubstitution => "unterminated \u0060s' command"
  | openTranslation => "unterminated \u0060y' command"
  | unknownOption => "unknown option to \u0060s'"
  | severalPrints => "multiple \u0060p' options to \u0060s' command"
  | severalGlobals => "multiple \u0060g' options to \u0060s' command"
  | severalNumbers => "multiple number options to \u0060s' command"
  | zeroNumber => "number option to \u0060s' command may not be zero"
  | unequalLengths => "strings for \u0060y' command are different lengths"
  | newerVersion => "expected newer version of sed"
  | labelMissing => "\":\" lacks a label"
  | fileMissing => "missing filename in r/R/w/W commands"
  | unknownCommand c => "unknown command: \u0060" ++ String.singleton c ++ "'"
  | badReference number => "invalid reference \\" ++ toString number ++ " on \u0060s' command's RHS"
  | noPattern => "no previous regular expression"
  | emptyWithFlags => "cannot specify modifiers on empty regexp"
  | pattern flaw => flaw.message
  | noLabel label => "can't find label for jump to \u0060" ++ label ++ "'"

/-- What is left of a script, and how much of it has been read. -/
structure Progress where
  rest : List Char
  count : Nat
  /-- Whether expressions are in the extended form. -/
  isExtended : Bool
  /-- The commands read so far. -/
  commands : Array Command
  /-- The places of the braces that are open, the last one first, and where they were read. -/
  opened : List (Nat × Nat)
  labels : List (String × Nat)

/-- Reads from a script. A flaw comes with the place where it was found. -/
abbrev Reader := StateT Progress (Except (Flaw × Nat))

namespace Reader

/-- Stops because of a flaw. -/
def fail {α : Type} (flaw : Flaw) : Reader α := do
  throw (flaw, (← get).count)

/-- The next character, if there is one. -/
def next : Reader (Option Char) := do
  let p ← get
  match p.rest with
  | [] => return none
  | c :: rest =>
    set { p with rest, count := p.count + 1 }
    return some c

/-- Puts a character back. -/
def back (c : Option Char) : Reader Unit :=
  c.forM fun c => modify fun p => { p with rest := c :: p.rest, count := p.count - 1 }

/-- Whether a character is a blank inside a line. -/
def isBlank (c : Char) : Bool := c == ' ' || c == '\t'

/-- Takes the characters at the front for which something holds. -/
def takeWhile (holds : Char → Bool) : Reader (List Char) := do
  let p ← get
  let taken := p.rest.takeWhile holds
  set { p with rest := p.rest.drop taken.length, count := p.count + taken.length }
  return taken

/-- The next character that is no blank. -/
def nextSolid : Reader (Option Char) := do
  let _ ← takeWhile isBlank
  next

/-- The number that starts with a digit. -/
def number (first : Char) : Reader Nat := do
  let digits ← takeWhile Char.isDigit
  return ((String.ofList (first :: digits)).toNat?).getD 0

/-! ## Escapes -/

/-- The number of digits in a base at the front, and their value. -/
def digitsIn (base most : Nat) (text : List Char) : Nat × Nat :=
  let value? (c : Char) : Option Nat :=
    let lower := c.toLower
    let n := if c.isDigit then some (c.toNat - '0'.toNat)
      else if 'a' ≤ lower && lower ≤ 'f' then some (lower.toNat - 'a'.toNat + 10) else none
    n.filter (· < base)
  let digits := (text.takeWhile fun c => (value? c).isSome).take most
  (digits.length, digits.foldl (fun n c => n * base + (value? c).getD 0) 0)

/-- The character that the text behind a backslash stands for, and how much of the text that
    takes. -/
def escaped? (text : List Char) : Option (Char × Nat) :=
  let coded (base most : Nat) (rest : List Char) : Option (Char × Nat) :=
    let (count, value) := digitsIn base most rest
    if count == 0 then none else some (Char.ofNat (value % 256), count + 1)
  match text with
  | 'a' :: _ => some ('\x07', 1)
  | 'f' :: _ => some ('\x0c', 1)
  | 'r' :: _ => some ('\r', 1)
  | 't' :: _ => some ('\t', 1)
  | 'v' :: _ => some ('\x0b', 1)
  | 'c' :: c :: _ => some (Char.ofNat (c.toUpper.toNat ^^^ 64), 2)
  | 'd' :: rest => coded 10 3 rest
  | 'o' :: rest => coded 8 3 rest
  | 'x' :: rest => coded 16 2 rest
  | _ => none

/-- An expression with the characters in place of their escapes. -/
def unescaped : Nat → List Char → List Char
  | 0, text => text
  | _, [] => []
  | fuel + 1, '\\' :: rest =>
    match escaped? rest with
    | some (c, length) => c :: unescaped fuel (rest.drop length)
    | none =>
      match rest with
      | 'n' :: more => '\n' :: unescaped fuel more
      | c :: more => '\\' :: c :: unescaped fuel more
      | [] => ['\\']
  | fuel + 1, c :: rest => c :: unescaped fuel rest

/-! ## Texts between signs -/

/-- The length of a set in brackets at the front of an expression, behind the bracket that opens
    it. -/
def setLength (text : List Char) : Option Nat :=
  let start := match text with
    | '^' :: ']' :: _ => 2
    | '^' :: _ => 1
    | ']' :: _ => 1
    | _ => 0
  let rec go : Nat → List Char → Nat → Option Nat
    | 0, _, _ => none
    | _, [], _ => none
    | fuel + 1, c :: rest, count =>
      match c, rest with
      | ']', _ => some (count + 1)
      | '\n', _ => none
      | '[', sign :: inside =>
        if ":.=".toList.contains sign then
          match Regex.Reader.upToSign sign inside with
          | some (name, after) => go fuel after (count + name.length + 4)
          | none => none
        else go fuel rest (count + 1)
      | _, _ => go fuel rest (count + 1)
  go (text.length + 1) (text.drop start) start

/-- The text up to a sign that is not escaped; there is none if the line or the script ends
    first. An expression can have the sign in a set in brackets. -/
def upTo (sign : Char) (isExpression : Bool) : Nat → Reader (Option (List Char))
  | 0 => return none
  | fuel + 1 => do
    match ← next with
    | none => return none
    | some '\n' =>
      back (some '\n')
      return none
    | some c =>
      if c == sign then return some []
      else if c == '\\' then
        match ← next with
        | none => return none
        | some d =>
          let kept :=
            if d == 'n' && isExpression then ['\n']
            else if d == '\n' then ['\\', '\n']
            else if d == sign && !(!isExpression && d == '&') then [d]
            else ['\\', d]
          return (← upTo sign isExpression fuel).map (kept ++ ·)
      else if c == '[' && isExpression then
        let p ← get
        match setLength p.rest with
        | none =>
          let _ ← takeWhile (· != '\n')
          return none
        | some length =>
          let inside := p.rest.take length
          set { p with rest := p.rest.drop length, count := p.count + length }
          return (← upTo sign isExpression fuel).map fun rest => c :: inside ++ rest
      else return (← upTo sign isExpression fuel).map (c :: ·)

/-- The text up to a sign. -/
def delimited (sign : Char) (isExpression : Bool) : Reader (Option (List Char)) := do
  upTo sign isExpression ((← get).rest.length + 1)

/-- The pattern that a text is; an empty one stands for the one used last. -/
def patternOf (text : List Char) (folds lines : Bool) : Reader (Option Pattern) := do
  if text.isEmpty then
    if folds || lines then fail .emptyWithFlags
    return none
  let form := if (← get).isExtended then Regex.Form.extendedForm else Regex.Form.basic
  match Regex.ofChars form (unescaped (text.length + 1) text) with
  | .ok regex => return some ⟨regex, folds, lines⟩
  | .error flaw => fail (.pattern flaw)

/-! ## Addresses -/

/-- The letters behind the expression of an address: whether case and whether lines count. -/
def addressFlags : Nat → Bool → Bool → Reader (Bool × Bool)
  | 0, folds, lines => return (folds, lines)
  | fuel + 1, folds, lines => do
    match ← nextSolid with
    | some 'I' => addressFlags fuel true lines
    | some 'M' => addressFlags fuel folds true
    | c =>
      back c
      return (folds, lines)

/-- The expression of an address. -/
def addressPattern (sign : Char) : Reader (Option Pattern) := do
  match ← delimited sign true with
  | none => fail .openAddress
  | some text =>
    let (folds, lines) ← addressFlags 8 false false
    patternOf text folds lines

/-- The address that starts with a character, if one does. -/
def address? (first : Option Char) : Reader (Option (Address ⊕ Bound)) := do
  match first with
  | some '/' => return some (.inl (.matching (← addressPattern '/')))
  | some '\\' =>
    match ← next with
    | none => fail .openAddress
    | some sign => return some (.inl (.matching (← addressPattern sign)))
  | some '$' => return some (.inl .last)
  | some '+' => return some (.inr (.further (← distance)))
  | some '~' => return some (.inr (.multiple (← distance)))
  | some c =>
    if c.isDigit then
      let n ← number c
      match ← nextSolid with
      | some '~' => return some (.inl (.step n (← distance)))
      | after =>
        back after
        return some (.inl (.line n))
    else return none
  | none => return none
where
  /-- The number behind a sign. -/
  distance : Reader Nat := do
    match ← nextSolid with
    | some c =>
      if c.isDigit then number c
      else
        back (some c)
        return 0
    | none => return 0

/-- What the second of two addresses calls. -/
def boundOf : Address ⊕ Bound → Bound
  | .inr bound => bound
  | .inl (.line n) => .line n
  | .inl (.step first distance) => .step first distance
  | .inl .last => .last
  | .inl (.matching pattern) => .matching pattern

/-- The lines that a command is for, and the character behind them. -/
def scope (first : Option Char) : Reader (Scope × Option Char) := do
  let (start, end?, after) ← match ← address? first with
    | none => pure (none, none, first)
    | some (.inr _) => fail .badFirst
    | some (.inl start) => do
      let after ← nextSolid
      let (end?, after) ← if after == some ',' then do
          match ← address? (← nextSolid) with
          | none => fail .unexpectedComma
          | some address => pure (some (boundOf address), ← nextSolid)
        else pure ((none : Option Bound), after)
      let isMatching := match end? with
        | some (.matching _) => true
        | _ => false
      if start == .line 0 && !isMatching then fail .badZero
      pure (some start, end?, after)
  if after == some '!' then
    let after ← nextSolid
    if after == some '!' then fail .severalNegations
    return (⟨start, end?, true⟩, after)
  return (⟨start, end?, false⟩, after)

/-! ## Parts of commands -/

/-- Reads the end of a command. -/
def endOfCommand : Reader Unit := do
  match ← nextSolid with
  | none => pure ()
  | some c =>
    if c == '\x7d' || c == '#' then back (some c)
    else if c != '\n' && c != ';' then fail .junk

/-- A label. -/
def label : Reader String := do
  let _ ← takeWhile isBlank
  return String.ofList (← takeWhile fun c => !c.isWhitespace && c != ';' && c != '\x7d')

/-- The name of a file, up to the end of the line. -/
def fileName : Reader String := do
  let _ ← takeWhile isBlank
  let name ← takeWhile (· != '\n')
  if name.isEmpty then fail .fileMissing
  return String.ofList name

/-- A text up to the end of a line that is not escaped. -/
def textLines : Nat → Reader (List Char)
  | 0 => return []
  | fuel + 1 => do
    match ← next with
    | none => return ['\n']
    | some '\n' => return ['\n']
    | some '\\' =>
      let rest := (← get).rest
      match escaped? rest with
      | some (c, length) =>
        modify fun p => { p with rest := p.rest.drop length, count := p.count + length }
        return c :: (← textLines fuel)
      | none =>
        match ← next with
        | none => return ['\n']
        | some 'n' => return '\n' :: (← textLines fuel)
        | some c => return c :: (← textLines fuel)
    | some c => return c :: (← textLines fuel)

/-- The text of a command that adds lines. -/
def addedText : Reader String := do
  let most := (← get).rest.length + 2
  match ← nextSolid with
  | none => fail .textMissing
  | some '\\' =>
    let blanks ← takeWhile isBlank
    match ← next with
    | none => return ""
    | some '\n' =>
      if (← get).rest.isEmpty then return ""
      return String.ofList (← textLines most)
    | some c =>
      let first := if c == '\\' then [] else [c]
      if first.isEmpty then back (some c)
      return String.ofList (blanks ++ first ++ (← textLines most))
  | some c =>
    back (some c)
    return String.ofList (← textLines most)

/-! ## Substitutions -/

/-- The pieces of what is put in place of a match: `casing` and `initial` are the changes of case
    for the next piece, and `pending` is its text in reverse. A backslash ends a piece. -/
def pieces : Nat → Option Casing → Option Casing → List Char → List Char → List Piece
  | 0, _, _, _, _ => []
  | _, casing, initial, pending, [] =>
    if pending.isEmpty then [] else [⟨pending.reverse, none, casing, initial⟩]
  | fuel + 1, casing, initial, pending, c :: rest =>
    let piece (group : Option Nat) : Piece := ⟨pending.reverse, group, casing, initial⟩
    let literal (c : Char) (more : List Char) : List Piece :=
      ⟨(c :: pending).reverse, none, casing, initial⟩ :: pieces fuel casing none [] more
    match c, rest with
    | '&', _ => piece (some 0) :: pieces fuel casing none [] rest
    | '\\', d :: more =>
      if d.isDigit then
        piece (some (d.toNat - '0'.toNat)) :: pieces fuel casing none [] more
      else
        match d with
        | 'U' => piece none :: pieces fuel (some .upper) none [] more
        | 'L' => piece none :: pieces fuel (some .lower) none [] more
        | 'E' => piece none :: pieces fuel none none [] more
        | 'u' => piece none :: pieces fuel casing (some .upper) [] more
        | 'l' => piece none :: pieces fuel casing (some .lower) [] more
        | 'n' => literal '\n' more
        | _ =>
          match escaped? rest with
          | some (e, length) => pieces fuel casing initial (e :: pending) (rest.drop length)
          | none => literal d more
    | _, _ => pieces fuel casing initial (c :: pending) rest

/-- What the letters behind a substitution ask for. -/
structure Marks where
  folds : Bool
  lines : Bool
  evaluates : Bool
  prints : Nat
  isGlobal : Bool
  nth : Option Nat
  file : Option String

/-- The letters behind a substitution. -/
def marks : Nat → Marks → Reader Marks
  | 0, m => return m
  | fuel + 1, m => do
    match ← next with
    | none => return m
    | some '\n' => return m
    | some ';' => return m
    | some '#' =>
      back (some '#')
      return m
    | some '\x7d' =>
      back (some '\x7d')
      return m
    | some ' ' => marks fuel m
    | some 'i' => marks fuel { m with folds := true }
    | some 'I' => marks fuel { m with folds := true }
    | some 'm' => marks fuel { m with lines := true }
    | some 'M' => marks fuel { m with lines := true }
    | some 'e' => marks fuel { m with evaluates := true }
    | some 'p' =>
      if 0 < m.prints then fail .severalPrints
      marks fuel { m with prints := 1 }
    | some 'g' =>
      if m.isGlobal then fail .severalGlobals
      marks fuel { m with isGlobal := true }
    | some 'w' => return { m with file := some (← fileName) }
    | some c =>
      if c.isDigit then
        if m.nth.isSome then fail .severalNumbers
        let n ← number c
        if n == 0 then fail .zeroNumber
        marks fuel { m with nth := some n }
      else fail .unknownOption

/-- A substitution behind its letter. -/
def substitution : Reader Deed := do
  match ← next with
  | none => fail .openSubstitution
  | some sign =>
    match ← delimited sign true with
    | none => fail .openSubstitution
    | some text =>
      match ← delimited sign false with
      | none => fail .openSubstitution
      | some replacement =>
        let m ← marks (replacement.length + (← get).rest.length + 1)
          ⟨false, false, false, 0, false, none, none⟩
        let pattern ← patternOf text m.folds m.lines
        let pieces := pieces (replacement.length + 1) none none [] replacement
        let used := (pieces.filterMap (·.group)).foldl max 0
        match pattern with
        | some p => if p.regex.groupCount < used then fail (.badReference used)
        | none => pure ()
        return .substitute
          { pattern
            pieces
            nth := m.nth.getD 1
            isGlobal := m.isGlobal
            prints := m.prints
            evaluates := m.evaluates
            file := m.file }

/-- The characters of a list for a translation. -/
def translated : Nat → List Char → List Char
  | 0, text => text
  | _, [] => []
  | fuel + 1, '\\' :: rest =>
    match rest with
    | [] => ['\\']
    | '\\' :: more => '\\' :: translated fuel more
    | 'n' :: more => '\n' :: translated fuel more
    | c :: more =>
      match escaped? rest with
      | some (e, length) => e :: translated fuel (rest.drop length)
      | none => c :: translated fuel more
  | fuel + 1, c :: rest => c :: translated fuel rest

/-- A translation behind its letter. -/
def translation : Reader Deed := do
  match ← next with
  | none => fail .openTranslation
  | some sign =>
    match ← delimited sign false with
    | none => fail .openTranslation
    | some source =>
      match ← delimited sign false with
      | none => fail .openTranslation
      | some target =>
        let source := translated (source.length + 1) source
        let target := translated (target.length + 1) target
        if source.length != target.length then fail .unequalLengths
        endOfCommand
        return .translate (source.zip target).reverse

/-! ## Commands -/

/-- The numbers of a version. -/
def versionOf (text : String) : List Nat :=
  (text.splitOn ".").map fun part => part.toNat?.getD 0

/-- The version whose commands are known. -/
def knownVersion : List Nat := [4, 9]

/-- Adds a command. -/
def add (scope : Scope) (deed : Deed) : Reader Unit :=
  modify fun p => { p with commands := p.commands.push ⟨scope, deed⟩ }

/-- The command without arguments that a letter stands for. -/
def simple? (c : Char) : Option Deed :=
  match c with
  | '=' => some .number
  | 'd' => some .delete
  | 'D' => some .deleteLine
  | 'F' => some .fileName
  | 'g' => some .get
  | 'G' => some .getMore
  | 'h' => some .hold
  | 'H' => some .holdMore
  | 'n' => some .next
  | 'N' => some .nextMore
  | 'p' => some .print
  | 'P' => some .printLine
  | 'x' => some .exchange
  | 'z' => some .clear
  | _ => none

/-- The number behind a command, if there is one. -/
def numberAfter : Reader (Option Nat) := do
  match ← nextSolid with
  | some c =>
    if c.isDigit then return some (← number c)
    else
      back (some c)
      return none
  | none => return none

/-- The command that a letter stands for, for some lines. -/
def command (scope : Scope) (c : Char) : Reader Unit := do
  match c with
  | '#' =>
    if scope.first.isSome then fail .commentWithAddress
    let _ ← takeWhile (· != '\n')
  | 'v' =>
    let text ← label
    if text != "" && compare knownVersion (versionOf text) == .lt then fail .newerVersion
  | '\x7b' =>
    let p ← get
    set { p with opened := (p.commands.size, p.count) :: p.opened }
    add scope (.opening 0)
  | '\x7d' =>
    let p ← get
    match p.opened with
    | [] => fail .closedBrace
    | (place, _) :: others =>
      if scope.first.isSome then fail .braceWithAddress
      endOfCommand
      let closed := p.commands.size
      modify fun p =>
        { p with
          opened := others
          commands := p.commands.modify place fun command =>
            { command with deed := .opening closed } }
      add scope .closing
  | 'e' =>
    match ← nextSolid with
    | none => add scope (.execute "")
    | some '\n' => add scope (.execute "")
    | c =>
      back c
      let text ← takeWhile (· != '\n')
      add scope (.execute (String.ofList text))
  | 'a' => add scope (.append (← addedText))
  | 'i' => add scope (.insert (← addedText))
  | 'c' => add scope (.change (← addedText))
  | ':' =>
    if scope.first.isSome then fail .labelWithAddress
    let name ← label
    if name.isEmpty then fail .labelMissing
    modify fun p => { p with labels := p.labels ++ [(name, p.commands.size)] }
    add scope .nothing
  | 'b' => add scope (.jump (← label))
  | 't' => add scope (.jumpIfReplaced (← label))
  | 'T' => add scope (.jumpUnlessReplaced (← label))
  | 'q' =>
    if scope.last.isSome then fail .oneAddress
    let status ← numberAfter
    endOfCommand
    add scope (.quit (status.getD 0))
  | 'Q' =>
    if scope.last.isSome then fail .oneAddress
    let status ← numberAfter
    endOfCommand
    add scope (.quitSilently (status.getD 0))
  | 'l' =>
    let width ← numberAfter
    endOfCommand
    add scope (.list width)
  | 'r' => add scope (.read (← fileName))
  | 'R' => add scope (.readLine (← fileName))
  | 'w' => add scope (.write (← fileName))
  | 'W' => add scope (.writeLine (← fileName))
  | 's' => add scope (← substitution)
  | 'y' => add scope (← translation)
  | c =>
    match simple? c with
    | some deed =>
      endOfCommand
      add scope deed
    | none => fail (.unknownCommand c)

/-- Reads commands up to the end of the script. -/
def all : Nat → Reader Unit
  | 0 => return ()
  | fuel + 1 => do
    let _ ← takeWhile fun c => c == ';' || c.isWhitespace
    match ← next with
    | none => return ()
    | first =>
      let (scope, letter) ← scope first
      match letter with
      | none => fail .commandMissing
      | some c =>
        command scope c
        all fuel

end Reader

/-- The labels that commands go on at. -/
def Deed.target? : Deed → Option String
  | .jump label => some label
  | .jumpIfReplaced label => some label
  | .jumpUnlessReplaced label => some label
  | _ => none

/-- Reads a script. -/
def Script.ofText (isExtended : Bool) (text : String) : Except (Flaw × Nat) Script := do
  let chars := text.toList
  let ((), p) ← (Reader.all (chars.length + 1)).run ⟨chars, 0, isExtended, #[], [], []⟩
  match p.opened.getLast? with
  | some (_, place) => throw (.openBrace, place)
  | none =>
    let targets := (p.commands.toList.filterMap fun command => command.deed.target?).filter (· != "")
    match targets.find? fun label => !p.labels.any (·.1 == label) with
    | some label => throw (.noLabel label, 0)
    | none => return ⟨p.commands, p.labels, text.startsWith "#n"⟩

end Editing
end Shell
end SuiteCoverage
