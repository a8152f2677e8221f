import SuiteCoverage.Shell.Extended.Source

/-!
# Reading scripts of the extended shell

A script is read one line after another, as far as its commands go: what stands on the lines before
a flaw is carried out, and only then the flaw is told.
-/

set_option autoImplicit false

namespace SuiteCoverage
namespace Shell
namespace Extended
namespace Reader

/-! ## Runs of fragments -/

/-- How far a run of fragments goes, and what has a meaning in it. -/
structure Span where
  /-- Whether it stands in double quotes, or in something that is taken the same way. -/
  isDouble : Bool
  /-- Whether double quotes mean something. -/
  hasQuotes : Bool
  /-- The characters that a backslash takes the meaning from if it stands in double quotes. -/
  escaped : List Char
  /-- Characters that are closed by others, between which the run does not end. -/
  nested : List (Char × Char)
  /-- Whether the run ends before a text. -/
  ends : List Char → Bool

namespace Span

/-- What a backslash takes the meaning from in double quotes. -/
def usualEscapes : List Char := "$\u0060\"\\".toList

/-- A word. -/
def word : Span where
  isDouble := false
  hasQuotes := true
  escaped := []
  nested := []
  ends text := text.head?.all fun c =>
    endsWord c && !((c == '<' || c == '>') && (text.drop 1).head? == some '(')

/-- What stands in double quotes. -/
def quoted : Span where
  isDouble := true
  hasQuotes := false
  escaped := usualEscapes
  nested := []
  ends text := text.head?.all (· == '"')

/-- A document. -/
def document : Span where
  isDouble := true
  hasQuotes := false
  escaped := "$\u0060\\".toList
  nested := []
  ends text := text.isEmpty

/-- What stands in braces up to one of some characters. -/
def braced (isDouble : Bool) (closers : List Char) : Span where
  isDouble
  hasQuotes := true
  escaped := '}' :: usualEscapes
  nested := []
  ends text := text.head?.all closers.contains

/-- A number in braces. -/
def number : Span where
  isDouble := true
  hasQuotes := true
  escaped := usualEscapes
  nested := [('(', ')'), ('?', ':')]
  ends text := text.head?.all fun c => c == ':' || c == '}'

/-- What stands in two parentheses. -/
def arithmetic : Span where
  isDouble := true
  hasQuotes := true
  escaped := usualEscapes
  nested := [('(', ')')]
  ends text := text.head?.all (· == ')')

/-- What stands in brackets and is calculated. -/
def bracketed : Span where
  isDouble := true
  hasQuotes := true
  escaped := usualEscapes
  nested := [('[', ']')]
  ends text := text.head?.all (· == ']')

/-- A place in a list. -/
def place : Span where
  isDouble := false
  hasQuotes := true
  escaped := []
  nested := [('[', ']')]
  ends text := text.head?.all (· == ']')

/-- A part of the head of a loop that counts. -/
def part : Span where
  isDouble := true
  hasQuotes := true
  escaped := usualEscapes
  nested := [('(', ')')]
  ends text := text.head?.all fun c => c == ';' || c == ')'

/-- A pattern in parentheses. -/
def group : Span where
  isDouble := false
  hasQuotes := true
  escaped := []
  nested := [('(', ')')]
  ends text := text.head?.all (· == ')')

/-- An expression for a search, which goes on up to a blank. -/
def expression : Span where
  isDouble := false
  hasQuotes := true
  escaped := []
  nested := []
  ends text := text.head?.all fun c => c != '|' && endsWord c

/-- Whether a character means something in a run. -/
def stops (span : Span) (c : Char) : Bool :=
  "\\$\u0060".toList.contains c || (c == '"' && (!span.isDouble || span.hasQuotes || span.ends [c]))
    || (!span.isDouble && "'?*+@!<>".toList.contains c)
    || span.nested.any (fun (a, b) => c == a || c == b) || span.ends [c]

end Span

/-- Fragments with neighbouring texts put together. -/
def merged : List Fragment → List Fragment
  | [] => []
  | fragment :: rest =>
    match fragment, merged rest with
    | .text a quoted, .text b other :: more =>
      if quoted == other && !a.isEmpty && !b.isEmpty then .text (a ++ b) quoted :: more
      else .text a quoted :: .text b other :: more
    | fragment, more => fragment :: more

/-- The characters up to the back quote that closes, and how many characters they take with it;
    `none` if there is no such quote. A backslash keeps the next character from being taken for
    something else. -/
def backQuoted (isDouble : Bool) : List Char → Option (List Char × Nat)
  | [] => none
  | '\u0060' :: _ => some ([], 1)
  | '\\' :: c :: rest =>
    (backQuoted isDouble rest).map fun (inside, count) =>
      let isTaken := "$\u0060\\".toList.contains c || (isDouble && c == '"')
      (if isTaken then c :: inside else '\\' :: c :: inside, count + 2)
  | c :: rest => (backQuoted isDouble rest).map fun (inside, count) => (c :: inside, count + 1)

/-- The characters up to the single quote that closes, if there is one. A backslash keeps the next
    character from being taken for that. -/
def dollarQuoted : List Char → Option (List Char)
  | [] => none
  | '\'' :: _ => some []
  | '\\' :: c :: rest => (dollarQuoted rest).map fun inside => '\\' :: c :: inside
  | c :: rest => (dollarQuoted rest).map (c :: ·)

/-- What a sign in braces asks for, if it is one for a missing value. -/
def substituteOf? : Char → Option Substitute
  | '-' => some .use
  | '=' => some .assign
  | '?' => some .demand
  | '+' => some .alternative
  | _ => none

/-- The parameter at the start of a text: a name, a number, or a single character. -/
def parameterOf (text : List Char) (digits : Nat) : List Char :=
  match text with
  | [] => []
  | c :: _ =>
    if isSpecial c then [c]
    else if c.isDigit then (text.takeWhile Char.isDigit).take digits
    else nameOf text

/-- A delimiter without its quotes, and how many characters it takes. -/
def delimiterOf : Nat → List Char → List Char × Nat
  | 0, _ => ([], 0)
  | _, [] => ([], 0)
  | fuel + 1, '\\' :: c :: rest =>
    let (word, count) := delimiterOf fuel rest
    (c :: word, count + 2)
  | fuel + 1, c :: rest =>
    if endsWord c then ([], 0)
    else if c == '\'' || c == '"' then
      let inside := rest.takeWhile (· != c)
      let (word, count) := delimiterOf fuel (rest.drop (inside.length + 1))
      (inside ++ word, inside.length + 2 + count)
    else
      let (word, count) := delimiterOf fuel rest
      (c :: word, count + 1)

/-- The descriptor in front of the sign of a redirection at the start of a text, and the sign. -/
def redirectionOf? (text : List Char) : Option (Redirected × String × Nat) :=
  let digits := text.takeWhile Char.isDigit
  let inBraces := match text with
    | '{' :: more =>
      let name := nameOf more
      if !name.isEmpty && (more.drop name.length).head? == some '}' then some name else none
    | _ => none
  let signOf (redirected : Redirected) (count : Nat) : Option (Redirected × String × Nat) :=
    let after := text.drop count
    let known := ["<<<", "<<-", "<<", "<&", "<>", "<", ">>", ">&", ">|", ">"]
    let isPath := match after with
      | '<' :: '(' :: _ => true
      | '>' :: '(' :: _ => true
      | _ => false
    if isPath then none
    else
      (known.find? fun sign => sign.toList.isPrefixOf after).map fun sign =>
        (redirected, sign, count + sign.length)
  match inBraces with
  | some name => signOf (.variable_ (String.ofList name)) (name.length + 2)
  | none =>
    if digits.isEmpty then
      let both := ["&>>", "&>"]
      match both.find? fun sign => sign.toList.isPrefixOf text with
      | some sign => some (.usual, sign, sign.length)
      | none => signOf .usual 0
    else signOf (.number ((String.ofList digits).toNat?.getD 0)) digits.length

/-- The direction of the sign of a redirection. -/
def directionOf (sign : String) : Direction :=
  match sign with
  | "<" => .input
  | "<>" => .both
  | ">>" => .append
  | ">|" => .overwrite
  | "<&" => .sameInput
  | ">&" => .sameOutput
  | "&>" => .all
  | "&>>" => .appendAll
  | _ => .output

/-- A part of a command that is made up of words. -/
inductive Part where
  | assignment (assignment : Assignment)
  | argument (argument : Argument)
  | redirect (target : Redirect)

/-- The assignment that a part is. -/
def Part.assignment? : Part → Option Assignment
  | assignment a => some a
  | _ => none

/-- The argument that a part is. -/
def Part.argument? : Part → Option Argument
  | argument a => some a
  | _ => none

/-- The redirection that a part is. -/
def Part.redirect? : Part → Option Redirect
  | redirect target => some target
  | _ => none

/-- The commands whose arguments are assignments if they look like some. -/
def declaring : List String := ["declare", "typeset", "local", "export", "readonly"]

/-- Operators of questions about one text. -/
def singles : List String :=
  ["-a", "-b", "-c", "-d", "-e", "-f", "-g", "-h", "-k", "-n", "-o", "-p", "-r", "-s", "-t", "-u",
    "-v", "-w", "-x", "-z", "-G", "-L", "-N", "-O", "-R", "-S"]

/-- Operators of questions about two texts. -/
def doubles : List String :=
  ["=", "==", "!=", "=~", "-eq", "-ne", "-lt", "-le", "-gt", "-ge", "-nt", "-ot", "-ef"]

/-- Whether a text starts an assignment to a name, and whether it adds to it. The text is what
    follows the name and what may be in brackets behind it. -/
def assigns? : List Char → Option Bool
  | '=' :: _ => some false
  | '+' :: '=' :: _ => some true
  | _ => none

/-- The place behind the bracket that closes one opened before. Quotes are passed over. -/
def afterBracket : Nat → Nat → List Char → Option (List Char)
  | 0, _, _ => none
  | _, _, [] => none
  | fuel + 1, depth, c :: rest =>
    if c = '\\' then afterBracket fuel depth (rest.drop 1)
    else if c = '\'' || c = '"' then
      afterBracket fuel depth ((rest.dropWhile (· != c)).drop 1)
    else if c = '[' then afterBracket fuel (depth + 1) rest
    else if c = ']' then if depth = 0 then some rest else afterBracket fuel (depth - 1) rest
    else if c = '\n' then none
    else afterBracket fuel depth rest

/-- Whether an assignment stands at the start of a text. -/
def startsAssignment (text : List Char) : Bool :=
  let name := nameOf text
  if name.isEmpty then false
  else
    match text.drop name.length with
    | '[' :: inside => ((afterBracket (inside.length + 1) 0 inside).bind assigns?).isSome
    | after => (assigns? after).isSome

/-- How far a list of steps goes. -/
inductive Extent where
  /-- To the end of the line. -/
  | line
  /-- To something that closes it. -/
  | body
  /-- The same, and there need be no steps. -/
  | any
deriving DecidableEq

/-- The end of a clause. -/
def clauseEnd? (text : List Char) : Option (ClauseEnd × Nat) :=
  match text with
  | ';' :: ';' :: '&' :: _ => some (.tryOn, 3)
  | ';' :: ';' :: _ => some (.stop, 2)
  | ';' :: '&' :: _ => some (.goOn, 2)
  | _ => none

/-- Adds a redirection of the error stream to where the output goes. -/
def withErrors (task : Task) : Task :=
  let also : List Redirect := [.to (.number 2) .sameOutput (.one "1" [.text "1" false])]
  match task with
  | .simple line assignments words redirects => .simple line assignments words (redirects ++ also)
  | .group body redirects => .group body (redirects ++ also)
  | .separate line body redirects => .separate line body (redirects ++ also)
  | .branch cases otherwise redirects => .branch cases otherwise (redirects ++ also)
  | .loop untilPassed condition body redirects =>
    .loop untilPassed condition body (redirects ++ also)
  | .each line name items body redirects => .each line name items body (redirects ++ also)
  | .count line start condition next raw body redirects =>
    .count line start condition next raw body (redirects ++ also)
  | .choose line name items body redirects => .choose line name items body (redirects ++ also)
  | .select line subject clauses redirects => .select line subject clauses (redirects ++ also)
  | .question line question redirects => .question line question (redirects ++ also)
  | .calculate line raw expression redirects => .calculate line raw expression (redirects ++ also)
  | task => task

/-- Whether a command ends here. -/
def atEnd : Reader Bool := do
  return (← rest).head?.all "\n;&|)".toList.contains

/-- Passes over blanks and line ends in a question. -/
def questionBreak : Reader Unit := lineBreak

/-- Whether an operator of two texts is next. -/
def isBinary (text : List Char) : Bool :=
  doubles.contains (bareWord text)
    || (text.head?.any "<>".toList.contains && (text.drop 1).head? != some '(')

mutual

/-- Fragments up to the end of a span, with so many characters still to be closed. -/
def fragments : Nat → Span → Nat → Reader (List Fragment)
  | 0, _, _ => tooDeep
  | fuel + 1, span, depth => do
    let text ← rest
    let source ← getThe Source
    if depth = 0 && span.ends text then return []
    match text with
    | [] => return []
    | '\\' :: '\n' :: _ =>
      skip 2
      fragments fuel span depth
    | ['\\'] =>
      skip 1
      return [.text "\\" span.isDouble]
    | '\\' :: c :: _ =>
      if !span.isDouble || span.escaped.contains c then
        skip 2
        return .text (String.singleton c) true :: (← fragments fuel span depth)
      skip 1
      return .text "\\" true :: (← fragments fuel span depth)
    | '\'' :: inside =>
      if span.isDouble then plainly fuel span depth
      else
        let quoted := inside.takeWhile (· != '\'')
        if quoted.length = inside.length then refuseOpen source.line "'"
        skip (quoted.length + 2)
        return .text (String.ofList quoted) true :: (← fragments fuel span depth)
    | '"' :: _ =>
      if span.isDouble && !span.hasQuotes then plainly fuel span depth
      else
        skip 1
        let inside ← fragments fuel .quoted 0
        if (← rest).isEmpty then refuseOpen source.line "\""
        skip 1
        return (if inside.isEmpty then [.text "" true] else inside)
          ++ (← fragments fuel span depth)
    | '$' :: '\'' :: inside =>
      if span.isDouble then plainly fuel span depth
      else
        match dollarQuoted inside with
        | none => refuseOpen source.line "'"
        | some quoted =>
          skip (quoted.length + 3)
          return .text (Escape.word quoted) true :: (← fragments fuel span depth)
    | '$' :: '"' :: _ =>
      if span.isDouble then plainly fuel span depth
      else
        skip 1
        fragments fuel span depth
    | '$' :: _ =>
      skip 1
      return (← dollar fuel span.isDouble) :: (← fragments fuel span depth)
    | '\u0060' :: inside =>
      match backQuoted span.isDouble inside with
      | none => refuseOpen source.line "\u0060"
      | some (inner, count) =>
        skip (count + 1)
        return .outputOf (String.ofList inner) span.isDouble :: (← fragments fuel span depth)
    | c :: next :: _ =>
      if !span.isDouble && next == '(' && (c == '<' || c == '>') then
        skip 2
        let steps ← list fuel .always .any
        expect fuel ")"
        return .pipe (c == '<') steps :: (← fragments fuel span depth)
      else if !span.isDouble && next == '(' && "?*+@!".toList.contains c && source.hasGroups then
        skip 2
        let inside ← fragments fuel .group 0
        if (← rest).isEmpty then refuseOpen source.line ")"
        skip 1
        return .text (String.ofList [c, '(']) false :: inside ++ [.text ")" false]
          ++ (← fragments fuel span depth)
      else nestedly fuel span depth c
    | c :: _ => nestedly fuel span depth c
termination_by structural fuel => fuel

/-- Fragments that start with a character that may be one to be closed. -/
def nestedly : Nat → Span → Nat → Char → Reader (List Fragment)
  | 0, _, _, _ => tooDeep
  | fuel + 1, span, depth, c => do
    let own := .text (String.singleton c) span.isDouble
    if 0 < depth && span.nested.any fun (_, b) => b == c then
      skip 1
      return own :: (← fragments fuel span (depth - 1))
    else if span.nested.any fun (a, _) => a == c then
      skip 1
      return own :: (← fragments fuel span (depth + 1))
    else plainly fuel span depth
termination_by structural fuel => fuel

/-- Fragments that start with a character that means nothing. -/
def plainly : Nat → Span → Nat → Reader (List Fragment)
  | 0, _, _ => tooDeep
  | fuel + 1, span, depth => do
    let first := (← rest).take 1
    skip 1
    let others ← skipWhile fun c => !span.stops c
    return .text (String.ofList (first ++ others)) span.isDouble :: (← fragments fuel span depth)
termination_by structural fuel => fuel

/-- What a dollar sign introduces. -/
def dollar : Nat → Bool → Reader Fragment
  | 0, _ => tooDeep
  | fuel + 1, isDouble => do
    let source ← getThe Source
    match ← rest with
    | '(' :: '(' :: _ =>
      skip 2
      let expression ← fragments fuel .arithmetic 0
      match ← rest with
      | ')' :: ')' :: _ =>
        skip 2
        return .arithmetic expression isDouble
      | [] => refuseOpen source.line ")"
      | _ =>
        set source
        skip 1
        let steps ← list fuel .always .any
        closeOutput fuel
        return .output steps isDouble
    | '(' :: _ =>
      skip 1
      let steps ← list fuel .always .any
      closeOutput fuel
      return .output steps isDouble
    | '[' :: _ =>
      skip 1
      let expression ← fragments fuel .bracketed 0
      if (← rest).isEmpty then refuseOpen source.line "]"
      skip 1
      return .arithmetic expression isDouble
    | '{' :: _ =>
      skip 1
      braced fuel isDouble source.line
    | text =>
      let name := parameterOf text 1
      skip name.length
      return if name.isEmpty then .text "$" isDouble
        else .parameter (.mk (String.ofList name) .none false) .plain isDouble
termination_by structural fuel => fuel

/-- The parenthesis behind steps whose output is taken. -/
def closeOutput : Nat → Reader Unit
  | 0 => tooDeep
  | fuel + 1 => do
    lineBreak
    match ← rest with
    | ')' :: _ => skip 1
    | [] => refuseOpen (← lineNumber) ")"
    | _ => refuseNext fuel
termination_by structural fuel => fuel

/-- What stands in braces behind a dollar sign. -/
def braced : Nat → Bool → Nat → Reader Fragment
  | 0, _, _ => tooDeep
  | fuel + 1, isDouble, line => do
    let source ← getThe Source
    match ← known fuel isDouble with
    | some fragment =>
      if (← rest).head? == some '}' then
        skip 1
        return fragment
    | none => pure ()
    set source
    let raw ← textOf do
      let _ ← fragments fuel (.braced isDouble ['}']) 0
    if (← rest).isEmpty then refuseOpen line "\x7d"
    skip 1
    return .parameter (.mk "" .none false) (.wrong raw) isDouble
termination_by structural fuel => fuel

/-- What stands in braces, if it is known. -/
def known : Nat → Bool → Reader (Option Fragment)
  | 0, _ => tooDeep
  | fuel + 1, isDouble => do
    let text ← rest
    let continues (c : Char) : Bool := startsName c || c.isDigit || isSpecial c
    match text with
    | '#' :: c :: more =>
      if c != '}' && continues c then
        let source ← getThe Source
        skip 1
        let reference ← reference fuel false
        if (← rest).head? == some '}' && reference.isSome then
          return reference.map fun reference => .parameter reference .size isDouble
        set source
      ruled fuel isDouble (c :: more)
    | '!' :: c :: more =>
      if c != '}' && continues c && !("-?".toList.contains c && more.head? != some '}') then
        skip 1
        let name := nameOf (c :: more)
        match (c :: more).drop name.length with
        | '*' :: '}' :: _ =>
          if !name.isEmpty then
            skip (name.length + 1)
            return some (.parameter (.mk (String.ofList name) .none false) (.names true) isDouble)
        | '@' :: '}' :: _ =>
          if !name.isEmpty then
            skip (name.length + 1)
            return some (.parameter (.mk (String.ofList name) .none false) (.names false) isDouble)
        | _ => pure ()
        match ← reference fuel true with
        | none => return none
        | some found =>
          match found, (← rest).head? with
          | .mk name (.all joined) _, some '}' =>
            return some (.parameter (.mk name (.all joined) false) (.places joined) isDouble)
          | found, _ =>
            return (← rule fuel isDouble).map fun rule => .parameter found rule isDouble
      ruled fuel isDouble (c :: more)
    | _ => ruled fuel isDouble text
termination_by structural fuel => fuel

/-- A reference and what is done to its value. -/
def ruled : Nat → Bool → List Char → Reader (Option Fragment)
  | 0, _, _ => tooDeep
  | fuel + 1, isDouble, _ => do
    match ← reference fuel false with
    | none => return none
    | some found => return (← rule fuel isDouble).map fun rule => .parameter found rule isDouble
termination_by structural fuel => fuel

/-- A parameter, and the place that is meant in it. -/
def reference : Nat → Bool → Reader (Option Reference)
  | 0, _ => tooDeep
  | fuel + 1, isIndirect => do
    let text ← rest
    let name := parameterOf text text.length
    if name.isEmpty then return none
    skip name.length
    let isName := name.head?.any startsName
    match ← rest with
    | '[' :: '@' :: ']' :: _ =>
      if isName then
        skip 3
        return some (.mk (String.ofList name) (.all false) isIndirect)
      return none
    | '[' :: '*' :: ']' :: _ =>
      if isName then
        skip 3
        return some (.mk (String.ofList name) (.all true) isIndirect)
      return none
    | '[' :: _ =>
      if isName then
        skip 1
        let (inside, raw) ← withText (fragments fuel .place 0)
        if (← rest).isEmpty || raw.isEmpty then return none
        skip 1
        return some (.mk (String.ofList name) (.at_ raw (merged inside)) isIndirect)
      return none
    | _ => return some (.mk (String.ofList name) .none isIndirect)
termination_by structural fuel => fuel

/-- What is done to the value of a parameter, if it is known. -/
def rule : Nat → Bool → Reader (Option Rule)
  | 0, _ => tooDeep
  | fuel + 1, isDouble => do
    let pattern (count : Nat) (closers : List Char) : Reader (List Fragment) := do
      skip count
      return merged (← fragments fuel (.braced false closers) 0)
    let word (count : Nat) : Reader (List Fragment) := do
      skip count
      return merged (← fragments fuel (.braced isDouble ['}']) 0)
    let replacement (spot : Spot) (count : Nat) : Reader (Option Rule) := do
      skip count
      let first ← fragments fuel (.braced false ['/', '}']) 0
      let (first, count) := if first.isEmpty && (← rest).head? == some '/' && spot = .first then
          (first, 0)
        else (first, 1)
      if (← rest).head? == some '/' && count = 1 then
        return some (.replace spot (merged first) (← pattern 1 ['}']))
      return some (.replace spot (merged first) [])
    match ← rest with
    | '}' :: _ => return some .plain
    | ':' :: c :: _ =>
      match substituteOf? c with
      | some kind => return some (.substitute kind true (← word 2))
      | none =>
        skip 1
        let offset := merged (← fragments fuel .number 0)
        if (← rest).head? == some ':' then
          skip 1
          return some (.slice offset (some (merged (← fragments fuel .number 0))))
        return some (.slice offset none)
    | '%' :: '%' :: _ => return some (.trim true true (← pattern 2 ['}']))
    | '%' :: _ => return some (.trim true false (← pattern 1 ['}']))
    | '#' :: '#' :: _ => return some (.trim false true (← pattern 2 ['}']))
    | '#' :: _ => return some (.trim false false (← pattern 1 ['}']))
    | '/' :: '/' :: _ => replacement .everywhere 2
    | '/' :: '#' :: _ => replacement .front 2
    | '/' :: '%' :: _ => replacement .back 2
    | '/' :: _ => replacement .first 1
    | '^' :: '^' :: _ => return some (.letters .upper true (← pattern 2 ['}']))
    | '^' :: _ => return some (.letters .upper false (← pattern 1 ['}']))
    | ',' :: ',' :: _ => return some (.letters .lower true (← pattern 2 ['}']))
    | ',' :: _ => return some (.letters .lower false (← pattern 1 ['}']))
    | '~' :: '~' :: _ => return some (.letters .toggled true (← pattern 2 ['}']))
    | '~' :: _ => return some (.letters .toggled false (← pattern 1 ['}']))
    | '@' :: letter :: '}' :: _ =>
      if "QEPAaUuLKk".toList.contains letter then
        skip 2
        return some (.transform letter)
      return none
    | c :: _ =>
      match substituteOf? c with
      | some kind => return some (.substitute kind false (← word 1))
      | none => return none
    | [] => return none
termination_by structural fuel => fuel

/-- A word, in which braces may stand for several. -/
def word : Nat → Reader Word
  | 0 => tooDeep
  | fuel + 1 => do
    let (found, raw) ← withText (fragments fuel .word 0)
    let chars := raw.toList
    if !Braces.mayExpand chars then return .mk raw [merged found]
    match Braces.words chars with
    | [_] => return .mk raw [merged found]
    | texts => return .mk raw (← texts.mapM fun text => wordOf fuel text)
termination_by structural fuel => fuel

/-- The fragments of a word that is given. -/
def wordOf : Nat → List Char → Reader (List Fragment)
  | 0, _ => tooDeep
  | fuel + 1, text => do
    let before ← getThe Source
    set { before with text }
    let found ← fragments fuel .word 0
    modifyThe Source fun after =>
      { before with documents := after.documents, next := after.next }
    return merged found
termination_by structural fuel => fuel

/-- A word that stands for itself alone. -/
def single : Nat → Span → Reader Word
  | 0, _ => tooDeep
  | fuel + 1, span => do
    let (found, raw) ← withText (fragments fuel span 0)
    return .one raw (merged found)
termination_by structural fuel => fuel

/-- Gives up because of what comes next. -/
def refuseNext : Nat → Reader Unit
  | 0 => tooDeep
  | fuel + 1 => do
    blanks
    let text ← rest
    let told (token : String) : String :=
      "syntax error near unexpected token \u0060" ++ token ++ "'"
    match text, signOf? text with
    | [], _ => refuseEnd
    | '\n' :: _, _ => refuseNear none (told "newline")
    | _, some sign => refuseNear none (told sign)
    | _, none =>
      let line ← lineNumber
      let shown ← shownLine
      let digits := text.takeWhile Char.isDigit
      if !digits.isEmpty && (text.drop digits.length).head?.any "<>".toList.contains then
        refuseNear none (told (String.ofList digits))
      let raw ← textOf do
        let _ ← word fuel
      failWith flawStatus [(line, told raw), (line, shown)]
termination_by structural fuel => fuel

/-- Passes over line ends and a word or a sign that must be next. -/
def expect : Nat → String → Reader Unit
  | 0, _ => tooDeep
  | fuel + 1, word => do
    lineBreak
    expectHere fuel word
termination_by structural fuel => fuel

/-- Passes over a word or a sign that must be next. -/
def expectHere : Nat → String → Reader Unit
  | 0, _ => tooDeep
  | fuel + 1, word => do
    let text ← rest
    let found :=
      if word.all endsWord then String.ofList (text.take word.length) else bareWord text
    if found = word then skip word.length else refuseNext fuel
termination_by structural fuel => fuel

/-- Steps as far as `extent` tells. The first of them is taken as `join` says. -/
def list : Nat → Join → Extent → Reader (List Step)
  | 0, _, _ => tooDeep
  | fuel + 1, join, extent => do
    commandStart
    let text ← rest
    let isClosed := match text with
      | [] => true
      | ')' :: _ => true
      | _ => (clauseEnd? text).isSome || closers.contains (bareWord text)
    if isClosed then
      if join == .always && (extent != .body || text.isEmpty) then return []
      refuseNext fuel
    let step ← pipeline fuel join
    blanks
    match ← rest with
    | '&' :: '&' :: _ =>
      skip 2
      return step :: (← list fuel .ifPassed extent)
    | '|' :: '|' :: _ =>
      skip 2
      return step :: (← list fuel .ifFailed extent)
    | '\n' :: _ =>
      if extent == .line then return [step]
      return step :: (← list fuel .always .any)
    | text =>
      if (clauseEnd? text).isSome then return [step]
      let c := text.headD ')'
      if c != ';' && c != '&' then return [step]
      let step := step.setDetached (c == '&')
      skip 1
      blanks
      if extent == .line && (← rest).head?.all (· == '\n') then return [step]
      return step :: (← list fuel .always (if extent == .line then .line else .any))
termination_by structural fuel => fuel

/-- A pipeline. -/
def pipeline : Nat → Join → Reader Step
  | 0, _ => tooDeep
  | fuel + 1, join => do
    match bareWord (← rest) with
    | "!" =>
      skip 1
      unfold blanks (← aliasLimit)
      if ← atEnd then return .mk join true none [] false
      match ← pipeline fuel join with
      | .mk join negated timing tasks detached => return .mk join (!negated) timing tasks detached
    | "time" =>
      skip 4
      unfold blanks (← aliasLimit)
      let isShort := bareWord (← rest) == "-p"
      if isShort then
        skip 2
        unfold blanks (← aliasLimit)
      if bareWord (← rest) == "--" then
        skip 2
        unfold blanks (← aliasLimit)
      if ← atEnd then return .mk join false (some isShort) [] false
      match ← pipeline fuel join with
      | .mk join negated _ tasks detached =>
        return .mk join negated (some isShort) tasks detached
    | _ => return .mk join false none (← tasks fuel) false
termination_by structural fuel => fuel

/-- The commands of a pipeline. -/
def tasks : Nat → Reader (List Task)
  | 0 => tooDeep
  | fuel + 1 => do
    let task ← command fuel
    blanks
    match ← rest with
    | '|' :: '|' :: _ => return [task]
    | '|' :: '&' :: _ =>
      skip 2
      commandStart
      return withErrors task :: (← furtherTasks fuel)
    | '|' :: _ =>
      skip 1
      commandStart
      return task :: (← furtherTasks fuel)
    | _ => return [task]
termination_by structural fuel => fuel

/-- The commands of a pipeline behind the first. -/
def furtherTasks : Nat → Reader (List Task)
  | 0 => tooDeep
  | fuel + 1 => do
    if bareWord (← rest) == "!" || bareWord (← rest) == "time" then
      let line ← lineNumber
      let step ← pipeline fuel .always
      return [.group [step] [], .group [] []].take (if line = 0 then 2 else 1)
    tasks fuel
termination_by structural fuel => fuel

/-- A command. -/
def command : Nat → Reader Task
  | 0 => tooDeep
  | fuel + 1 => do
    let text ← rest
    let line ← lineNumber
    let startsArithmetic : Bool := "((".toList.isPrefixOf text
    if startsArithmetic then
      let source ← getThe Source
      skip 2
      let (expression, raw) ← withText (fragments fuel .arithmetic 0)
      if (← rest).take 2 = [')', ')'] then
        skip 2
        return .calculate line raw (merged expression) (← redirects fuel)
      set source
    match bareWord text with
    | "if" =>
      skip 2
      let (cases, otherwise) ← branches fuel
      return .branch cases otherwise (← redirects fuel)
    | "while" =>
      skip 5
      loopOf fuel false
    | "until" =>
      skip 5
      loopOf fuel true
    | "for" =>
      skip 3
      eachOf fuel line
    | "select" =>
      skip 6
      match ← itemsOf fuel with
      | (name, items) =>
        let body ← bodyOf fuel
        return .choose line name items body (← redirects fuel)
    | "case" =>
      skip 4
      blanks
      if ← atEnd then refuseNext fuel
      let subject ← single fuel .word
      expect fuel "in"
      let clauses ← clausesOf fuel
      return .select line subject clauses (← redirects fuel)
    | "function" =>
      skip 8
      blanks
      let name ← textOf do
        let _ ← skipWhile fun c => !endsWord c
      if name.isEmpty then refuseNext fuel
      blanks
      if (← rest).head? == some '(' then
        skip 1
        blanks
        expectHere fuel ")"
      functionBody fuel line name
    | "coproc" =>
      skip 6
      blanks
      if ← atEnd then refuseNext fuel
      let source ← getThe Source
      let name := nameOf source.text
      skip name.length
      blanks
      let isBody := "(\x7b".toList.contains ((← rest).headD ' ') || ["if", "while", "until", "for",
        "case", "select", "[["].contains (bareWord (← rest))
      if !name.isEmpty && isBody && !reserved.contains (String.ofList name) then
        return .beside line (String.ofList name) (← command fuel)
      set source
      return .beside line "COPROC" (← command fuel)
    | "[[" =>
      skip 2
      let question ← anyOf fuel
      questionBreak
      if bareWord (← rest) != "]]" then
        let line ← lineNumber
        if (← rest).isEmpty then
          throw ⟨[(line - 1, "unexpected EOF while looking for \u0060]]'"),
            (line, "syntax error: unexpected end of file")], flawStatus, true⟩
        let token ← tokenText fuel
        refuseNear (some "syntax error in conditional expression")
          ("syntax error near \u0060" ++ token ++ "'")
      skip 2
      return .question line question (← redirects fuel)
    | "\x7b" =>
      skip 1
      let body ← list fuel .always .body
      expect fuel "\x7d"
      return .group body (← redirects fuel)
    | word =>
      if text.head? == some '(' then
        skip 1
        let body ← list fuel .always .body
        expect fuel ")"
        return .separate line body (← redirects fuel)
      else if reserved.contains word && word != "]]" && word != "in" then
        refuseNext fuel
        return default
      else simple fuel
termination_by structural fuel => fuel

/-- The body of a function. -/
def functionBody : Nat → Nat → String → Reader Task
  | 0, _, _ => tooDeep
  | fuel + 1, line, name => do
    lineBreak
    let text ← rest
    let isBody := text.head? == some '(' || ["\x7b", "if", "while", "until", "for", "case",
      "select", "[["].contains (bareWord text)
    if !isBody then refuseNext fuel
    return .define line name (← command fuel)
termination_by structural fuel => fuel

/-- A command that is made up of words, or a function that is defined. -/
def simple : Nat → Reader Task
  | 0 => tooDeep
  | fuel + 1 => do
    match ← part? fuel true false with
    | none =>
      refuseNext fuel
      return default
    | some first =>
      let line ← lineNumber
      match first with
      | .argument (.word word) =>
        blanks
        if (← rest).head? == some '(' then
          skip 1
          blanks
          expectHere fuel ")"
          return ← functionBody fuel line word.raw
      | _ => pure ()
      let isFirst : Bool := match first with
        | .argument _ => false
        | _ => true
      let declares : Bool := match first with
        | .argument (.word word) => declaring.contains word.raw
        | _ => false
      let all := first :: (← parts fuel isFirst declares)
      return .simple line (all.filterMap Part.assignment?) (all.filterMap Part.argument?)
        (all.filterMap Part.redirect?)
termination_by structural fuel => fuel

/-- The branches behind a condition. -/
def branches : Nat → Reader (List (List Step × List Step) × Option (List Step))
  | 0 => tooDeep
  | fuel + 1 => do
    let condition ← list fuel .always .body
    expect fuel "then"
    let body ← list fuel .always .body
    lineBreak
    match bareWord (← rest) with
    | "elif" =>
      skip 4
      let (cases, otherwise) ← branches fuel
      return ((condition, body) :: cases, otherwise)
    | "else" =>
      skip 4
      let otherwise ← list fuel .always .body
      expect fuel "fi"
      return ([(condition, body)], some otherwise)
    | _ =>
      expect fuel "fi"
      return ([(condition, body)], none)
termination_by structural fuel => fuel

/-- A loop behind its first word. -/
def loopOf : Nat → Bool → Reader Task
  | 0, _ => tooDeep
  | fuel + 1, untilPassed => do
    let condition ← list fuel .always .body
    expect fuel "do"
    let body ← list fuel .always .body
    expect fuel "done"
    return .loop untilPassed condition body (← redirects fuel)
termination_by structural fuel => fuel

/-- The body of a loop over items. -/
def bodyOf : Nat → Reader (List Step)
  | 0 => tooDeep
  | fuel + 1 => do
    lineBreak
    if bareWord (← rest) = "\x7b" then
      skip 1
      let body ← list fuel .always .body
      expect fuel "\x7d"
      return body
    expectHere fuel "do"
    let body ← list fuel .always .body
    expect fuel "done"
    return body
termination_by structural fuel => fuel

/-- The name and the items of a loop. -/
def itemsOf : Nat → Reader (String × Option (List Word))
  | 0 => tooDeep
  | fuel + 1 => do
    blanks
    if ← atEnd then refuseNext fuel
    let name ← single fuel .word
    blanks
    if (← rest).head? == some ';' then
      skip 1
      return (name.raw, none)
    lineBreak
    if bareWord (← rest) = "in" then
      skip 2
      let words ← wordsOf fuel
      blanks
      match (← rest).head? with
      | some ';' => skip 1
      | some '\n' => pure ()
      | _ => refuseNext fuel
      return (name.raw, some words)
    return (name.raw, none)
termination_by structural fuel => fuel

/-- Words up to the end of a line or a sign. -/
def wordsOf : Nat → Reader (List Word)
  | 0 => tooDeep
  | fuel + 1 => do
    nextWord false
    if Span.word.ends (← rest) then return []
    let first ← word fuel
    return first :: (← wordsOf fuel)
termination_by structural fuel => fuel

/-- A loop over items, or one that counts, behind its first word. -/
def eachOf : Nat → Nat → Reader Task
  | 0, _ => tooDeep
  | fuel + 1, line => do
    blanks
    let source ← getThe Source
    if "((".toList.isPrefixOf source.text then
      skip 2
      let next : Reader (List Fragment × String) := withText (fragments fuel .part 0)
      let (start, rawStart) ← next
      if (← rest).head? == some ';' then
        skip 1
        let (condition, rawCondition) ← next
        if (← rest).head? == some ';' then
          skip 1
          let (step, rawStep) ← next
          if (← rest).take 2 = [')', ')'] then
            skip 2
            blanks
            if (← rest).head? == some ';' then skip 1
            let body ← bodyOf fuel
            return .count line (merged start) (merged condition) (merged step)
              (rawStart, rawCondition, rawStep) body (← redirects fuel)
      set source
      let raw ← textOf do
        skip 2
        let _ ← fragments fuel .arithmetic 0
        skip 2
      failWith flawStatus [(line, "syntax error: arithmetic expression required"),
        (line, "syntax error: \u0060" ++ raw ++ "'")]
    match ← itemsOf fuel with
    | (name, items) =>
      let body ← bodyOf fuel
      return .each line name items body (← redirects fuel)
termination_by structural fuel => fuel

/-- The clauses of a selection. -/
def clausesOf : Nat → Reader (List Clause)
  | 0 => tooDeep
  | fuel + 1 => do
    lineBreak
    if bareWord (← rest) = "esac" then
      skip 4
      return []
    if (← rest).head? == some '(' then
      skip 1
      blanks
    let patterns ← alternatives fuel
    expectHere fuel ")"
    let body ← list fuel .always .any
    lineBreak
    match clauseEnd? (← rest) with
    | some (ends, count) =>
      skip count
      return .mk patterns body ends :: (← clausesOf fuel)
    | none =>
      expectHere fuel "esac"
      return [.mk patterns body .stop]
termination_by structural fuel => fuel

/-- The patterns of a clause. -/
def alternatives : Nat → Reader (List Word)
  | 0 => tooDeep
  | fuel + 1 => do
    blanks
    if Span.word.ends (← rest) then refuseNext fuel
    let pattern ← single fuel .word
    blanks
    if (← rest).head? == some '|' then
      skip 1
      return pattern :: (← alternatives fuel)
    return [pattern]
termination_by structural fuel => fuel

/-- What comes next in a question, as it is told if it should not. -/
def tokenText : Nat → Reader String
  | 0 => tooDeep
  | fuel + 1 => do
    blanks
    let text ← rest
    match text, signOf? text with
    | [], _ => refuseEnd
    | '\n' :: _, _ => return "newline"
    | _, some sign => return sign
    | _, none =>
      let source ← getThe Source
      let raw ← textOf do
        let _ ← fragments fuel .word 0
      set source
      return raw
termination_by structural fuel => fuel

/-- Questions one of which has to hold. -/
def anyOf : Nat → Reader Question
  | 0 => tooDeep
  | fuel + 1 => do
    let left ← allOf fuel
    questionBreak
    if (← rest).take 2 = ['|', '|'] then
      skip 2
      return .either left (← anyOf fuel)
    return left
termination_by structural fuel => fuel

/-- Questions all of which have to hold. -/
def allOf : Nat → Reader Question
  | 0 => tooDeep
  | fuel + 1 => do
    let left ← term fuel
    questionBreak
    if (← rest).take 2 = ['&', '&'] then
      skip 2
      return .both left (← allOf fuel)
    return left
termination_by structural fuel => fuel

/-- Gives up in a question. -/
def refuseTerm : Nat → String → Reader Unit
  | 0, _ => tooDeep
  | fuel + 1, sentence => do
    let token ← tokenText fuel
    refuseNear (some sentence) ("syntax error near \u0060" ++ token ++ "'")
termination_by structural fuel => fuel

/-- Gives up because of what comes next in a question, which a text ends with. -/
def refuseToken : Nat → String → String → Reader Unit
  | 0, _, _ => tooDeep
  | fuel + 1, before, after => do
    let token ← tokenText fuel
    refuseTerm fuel (before ++ "\u0060" ++ token ++ "'" ++ after)
termination_by structural fuel => fuel

/-- A single question. -/
def term : Nat → Reader Question
  | 0 => tooDeep
  | fuel + 1 => do
    questionBreak
    let text ← rest
    let name := bareWord text
    let isLoose : Bool := Span.word.ends text
    if text.isEmpty then
      let line ← lineNumber
      throw ⟨[(line - 1, "unexpected EOF while looking for \u0060]]'"),
        (line, "syntax error: unexpected end of file")], flawStatus, true⟩
    if text.head? == some '(' then
      skip 1
      let inside ← anyOf fuel
      questionBreak
      if (← rest).head? != some ')' then refuseToken fuel "unexpected token " ", expected \u0060)'"
      skip 1
      return .grouped inside
    else if name = "!" then
      skip 1
      return .negation (← term fuel)
    else if singles.contains name then
      let source ← getThe Source
      skip 2
      blanks
      let next ← rest
      if bareWord next = "]]" || Span.word.ends next then
        if isBinary next then
          set source
          binary fuel
        else
          refuseToken fuel "unexpected argument " " to conditional unary operator"
          return default
      else if isBinary next then
        set source
        binary fuel
      else return .one name (← single fuel .word)
    else if isLoose || name = "]]" then
      refuseToken fuel "unexpected token " " in conditional command"
      return default
    else binary fuel
termination_by structural fuel => fuel

/-- A question that starts with a text. -/
def binary : Nat → Reader Question
  | 0 => tooDeep
  | fuel + 1 => do
    let left ← single fuel .word
    blanks
    let text ← rest
    let name := bareWord text
    let closes : Bool := match text with
      | '&' :: '&' :: _ => true
      | '|' :: '|' :: _ => true
      | ')' :: _ => true
      | '\n' :: _ => true
      | [] => true
      | _ => name = "]]"
    if closes then return .one "-n" left
    let operator := if text.head?.any "<>".toList.contains then String.ofList (text.take 1)
      else name
    if !isBinary text then refuseTerm fuel "conditional binary operator expected"
    skip operator.length
    blanks
    let source ← getThe Source
    if operator = "=~" then
      if Span.word.ends source.text && source.text.head? != some '(' || bareWord source.text = "]]"
      then refuseToken fuel "unexpected argument " " to conditional binary operator"
      let (found, raw) ← withText (expression fuel)
      return .two operator left (.one raw (merged found))
    else
      if Span.word.ends source.text || bareWord source.text = "]]" then
        refuseToken fuel "unexpected argument " " to conditional binary operator"
      modifyThe Source fun source => { source with hasGroups := true }
      let right ← single fuel .word
      modifyThe Source fun after => { after with hasGroups := source.hasGroups }
      return .two operator left right
termination_by structural fuel => fuel

/-- An expression for a search. Blanks may stand in its parentheses. -/
def expression : Nat → Reader (List Fragment)
  | 0 => tooDeep
  | fuel + 1 => do
    let before ← fragments fuel .expression 0
    if (← rest).head? == some '(' then
      let line ← lineNumber
      skip 1
      let inside ← fragments fuel .group 0
      if (← rest).isEmpty then refuseOpen line ")"
      skip 1
      return before ++ .text "(" false :: inside ++ [.text ")" false] ++ (← expression fuel)
    return before
termination_by structural fuel => fuel

/-- An assignment at the front. -/
def assignment : Nat → Reader Assignment
  | 0 => tooDeep
  | fuel + 1 => do
    let name := nameOf (← rest)
    skip name.length
    let place ← placeOf fuel
    let adds := (← rest).head? == some '+'
    skip (if adds then 2 else 1)
    let line ← lineNumber
    if (← rest).head? == some '(' then
      skip 1
      let entries ← entriesOf fuel line
      return .mk (String.ofList name) place adds (.list entries)
    let (found, raw) ← withText (fragments fuel .word 0)
    return .mk (String.ofList name) place adds (.text raw (merged found))
termination_by structural fuel => fuel

/-- The place in brackets, if there is one. -/
def placeOf : Nat → Reader Place
  | 0 => tooDeep
  | fuel + 1 => do
    if (← rest).head? != some '[' then return .none
    skip 1
    let (inside, raw) ← withText (fragments fuel .place 0)
    skip 1
    return .at_ raw (merged inside)
termination_by structural fuel => fuel

/-- The entries of a list up to the parenthesis that closes it. -/
def entriesOf : Nat → Nat → Reader (List Entry)
  | 0, _ => tooDeep
  | fuel + 1, line => do
    lineBreak
    let text ← rest
    match text with
    | [] =>
      throw ⟨[(line, "unexpected EOF while looking for matching \u0060)'")], 1, true⟩
    | ')' :: _ =>
      skip 1
      return []
    | '[' :: inside =>
      let after := (afterBracket (inside.length + 1) 0 inside).getD []
      if (assigns? after).isSome then
        skip 1
        let (key, place) ← withText (fragments fuel .place 0)
        skip 1
        let adds := (← rest).head? == some '+'
        skip (if adds then 2 else 1)
        let (found, raw) ← withText (fragments fuel .word 0)
        return .placed place (merged key) adds raw (merged found) :: (← entriesOf fuel line)
      entryWord fuel line
    | _ => entryWord fuel line
termination_by structural fuel => fuel

/-- An entry of a list that is a word, and those behind it. -/
def entryWord : Nat → Nat → Reader (List Entry)
  | 0, _ => tooDeep
  | fuel + 1, line => do
    if Span.word.ends (← rest) then refuseNext fuel
    let first ← word fuel
    return .plain first :: (← entriesOf fuel line)
termination_by structural fuel => fuel

/-- A part of a command that is made up of words, if there is one more. -/
def part? : Nat → Bool → Bool → Reader (Option Part)
  | 0, _, _ => tooDeep
  | fuel + 1, mayAssign, declares => do
    nextWord mayAssign
    let text ← rest
    if (redirectionOf? text).isSome then return some (.redirect (← redirect fuel))
    if Span.word.ends text then return none
    if mayAssign && startsAssignment text then return some (.assignment (← assignment fuel))
    if declares && startsAssignment text then
      let name := nameOf text
      let after := match text.drop name.length with
        | '[' :: inside => (afterBracket (inside.length + 1) 0 inside).getD []
        | after => after
      let after := if after.head? == some '+' then after.drop 1 else after
      if (after.drop 1).head? == some '(' then
        return some (.argument (.assignment (← assignment fuel)))
    return some (.argument (.word (← word fuel)))
termination_by structural fuel => fuel

/-- Assignments, words and redirections as they come. Once a word has come there are no
    assignments any more. -/
def parts : Nat → Bool → Bool → Reader (List Part)
  | 0, _, _ => tooDeep
  | fuel + 1, mayAssign, declares => do
    match ← part? fuel mayAssign declares with
    | none => return []
    | some part =>
      let isWord : Bool := part.argument?.isSome
      let declares := declares || (mayAssign && match part with
        | .argument (.word word) => declaring.contains word.raw
        | _ => false)
      return part :: (← parts fuel (mayAssign && !isWord) declares)
termination_by structural fuel => fuel

/-- The redirections that are next. -/
def redirects : Nat → Reader (List Redirect)
  | 0 => tooDeep
  | fuel + 1 => do
    blanks
    if (redirectionOf? (← rest)).isSome then
      let target ← redirect fuel
      return target :: (← redirects fuel)
    return []
termination_by structural fuel => fuel

/-- A redirection. -/
def redirect : Nat → Reader Redirect
  | 0 => tooDeep
  | fuel + 1 => do
    match redirectionOf? (← rest) with
    | none => tooDeep
    | some (redirected, sign, count) =>
      skip count
      blanks
      if Span.word.ends (← rest) then refuseNext fuel
      if sign = "<<" ∨ sign = "<<-" then
        let source ← getThe Source
        let text := source.text
        let (delimiter, length) := delimiterOf (text.length + 1) text
        let raw := text.take length
        let plain := raw.any fun c => "'\"\\".toList.contains c
        skip length
        let number := source.next
        let announced : Announced :=
          ⟨number, String.ofList raw, delimiter, plain, sign == "<<-", source.line⟩
        modifyThe Source fun source =>
          { source with
            next := number + 1
            announced := source.announced ++ [announced] }
        return .document redirected number
      let target ← word fuel
      if sign = "<<<" then return .text redirected target
      return .to redirected (directionOf sign) target
termination_by structural fuel => fuel

end

/-- The steps of a line, and the documents that they announce. -/
def line (depth : Nat) : Reader (List Step) := do
  let steps ← list depth .always .line
  blanks
  let text ← rest
  if text.head? == some '\n' then newline
  else if !text.isEmpty then refuseNext depth
  else collectDocuments (← getThe Source).announced
  return steps

/-- How deep fragments can be in a text: nothing in it is nested deeper than it has characters. -/
def depthOf (size : Nat) : Nat := 8 * size + 64

/-- A source that has not been read yet. -/
def fresh (text : List Char) (lineNumber : Nat) : Source where
  text
  line := lineNumber
  passed := 0
  lineText := text
  announced := []
  documents := []
  unended := []
  next := 0
  hasGroups := false
  aliases := []
  inUse := []

/-- The fragments of a text that is taken like a document. -/
def ofDocument (text : List Char) : List Fragment :=
  match ((fragments (depthOf text.length) .document 0).readFrom (fresh text 1)).1 with
  | .ok word => merged word
  | .error _ => [.text (String.ofList text) true]

/-- A document, read. -/
def documentOf (found : Found) : Nat × Document :=
  let text := String.ofList found.text
  let word : List Fragment :=
    if found.announced.plain then [.text text true] else ofDocument found.text
  (found.announced.number, ⟨found.announced.raw, text, found.announced.indented, word⟩)

end Reader

/-- A line of a script as far as it could be read. -/
structure Line where
  steps : List Step
  documents : List (Nat × Document)
  /-- The documents that have not come to their ends: the line on which the script does, the line
      that announces them, and their delimiters. -/
  unended : List (Nat × Nat × String)
  flaw : Option Misreading
  /-- All that had to be read for it, up to the end of a line. -/
  source : List Char
  /-- The line that it starts on. -/
  number : Nat

namespace Source

/-- A text that has not been read yet, from a line on. -/
def ofText (text : String) (lineNumber : Nat) : Source := Reader.fresh text.toList lineNumber

/-- The text of lines of which a number of characters have been read. -/
def wholeLines (text : List Char) (count : Nat) : List Char :=
  let line := (text.drop count).takeWhile (· != '\n')
  match (text.take count).getLast? with
  | none => []
  | some '\n' => text.take count
  | some _ => text.take (count + line.length + 1)

/-- Reads the next line with commands in it, whose documents are numbered from `first` on, and gives
    back what follows it. -/
def readLine (source : Source) (hasGroups : Bool) (aliases : List (String × String))
    (first : Nat) : Line × Source :=
  let meant := (aliases.map fun entry => entry.2.length).foldl (· + ·) 0
  let depth := Reader.depthOf ((source.text.length + 1) * (meant + 1))
  let start :=
    { source with aliases, hasGroups, documents := [], unended := [], next := max source.next first }
  let (result, after) := (Reader.line depth).readFrom start
  let documents := after.documents.map Reader.documentOf
  let text := wholeLines source.text (after.passed - source.passed)
  let unended := after.unended.map fun entry =>
    (entry.1, entry.2.line, String.ofList entry.2.delimiter)
  match result with
  | .ok steps => (⟨steps, documents, unended, none, text, source.line⟩, after)
  | .error flaw =>
    (⟨[], documents, unended, some flaw, text, source.line⟩, { after with text := [] })

end Source
end Extended
end Shell
end SuiteCoverage
