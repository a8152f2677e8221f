import SuiteCoverage.Shell.Script

/-!
# Reading scripts

A script is read character by character, one line after another: what stands on the lines before
a flaw is carried out, and only then the flaw is reported.

A redirection can announce a document. Its text follows on the lines after the one that
announces it, up to a line that holds nothing but the word it was announced with. Documents are
therefore set aside under a number and read when the script has been.
-/

set_option autoImplicit false

namespace SuiteCoverage
namespace Shell

/-- A document that has been announced and not reached yet. -/
structure Announced where
  number : Nat
  delimiter : List Char
  /-- Whether the document is taken as it is, because its delimiter is quoted. -/
  plain : Bool
  /-- Whether tabs at the start of its lines are dropped. -/
  indented : Bool

/-- A document as it stands in the script. -/
structure Document where
  number : Nat
  text : List Char
  plain : Bool

/-- What is left of a script, and what has been set aside. -/
structure Source where
  text : List Char
  line : Nat
  announced : List Announced
  documents : List Document
  /-- The number of the next document. -/
  next : Nat
  aliases : List (String × String)
  /-- The aliases that have been put in place of their names, the last first, and the number of
      characters that follow each of them. -/
  inUse : List (String × Nat)

/-- Reads from a script. -/
abbrev Reader := ExceptT Misreading (StateM Source)

namespace Reader

/-- What is read from a source, and what is left of the source. -/
def readFrom {α : Type} (reader : Reader α) (source : Source) :
    Except Misreading α × Source :=
  (ExceptT.run reader).run source

/-- Gives up. -/
def fail {α : Type} (message : String) : Reader α := do
  let source ← getThe Source
  throw ⟨source.line, message⟩

/-- The characters that are left. -/
def rest : Reader (List Char) := do
  return (← getThe Source).text

/-- Passes over some characters. -/
def skip (count : Nat) : Reader Unit :=
  modifyThe Source fun source =>
    { source with
      text := source.text.drop count
      line := source.line + (source.text.take count).count '\n' }

/-- Passes over characters of a kind and gives them back. -/
def skipWhile (kind : Char → Bool) : Reader (List Char) := do
  let taken := (← rest).takeWhile kind
  skip taken.length
  return taken

/-! ## Characters and names -/

/-- Characters that end a bare word. -/
def endsWord (c : Char) : Bool :=
  " \t\n;&|<>()".toList.contains c

/-- Characters that can start a name. -/
def startsName (c : Char) : Bool :=
  c.isAlpha || c == '_'

/-- Characters that a name can go on with. -/
def continuesName (c : Char) : Bool :=
  c.isAlphanum || c == '_'

/-- Names of parameters that are a single character. -/
def isSpecial (c : Char) : Bool :=
  "@*#?-$!".toList.contains c

/-- The name at the start of a text; empty if there is none. -/
def nameOf (text : List Char) : List Char :=
  match text with
  | c :: _ => if startsName c then text.takeWhile continuesName else []
  | [] => []

/-- The bare characters up to the end of a word; a word with a quote or a dollar sign ends
    there, and so is no reserved word. -/
def bareWord (text : List Char) : String :=
  let word := text.takeWhile fun c => !endsWord c
  if word.any fun c => "'\"\\$\u0060".toList.contains c then "" else String.ofList word

/-- The words that end a list of steps. -/
def closers : List String :=
  ["then", "else", "elif", "fi", "do", "done", "esac", "\x7d"]

/-- The words that mean something where a command starts. -/
def reserved : List String :=
  closers ++ ["if", "while", "until", "for", "case", "in", "\x7b", "!"]

/-- The signs between commands. -/
def separators : List String := [";;", "&&", "||", ";", "&", "|", "(", ")"]

/-- What comes next in a text, as it is told if it should not. Reserved words are words like
    others where no command starts. -/
def nextThing (commandStarts : Bool) (text : List Char) : String :=
  let word := bareWord text
  let digits := text.takeWhile Char.isDigit
  match text with
  | [] => "end of file"
  | '\n' :: _ => "newline"
  | _ =>
    match separators.find? fun sign => sign.toList.isPrefixOf text with
    | some sign => "\"" ++ sign ++ "\""
    | none =>
      if (text.drop digits.length).head?.any "<>".toList.contains then "redirection"
      else if commandStarts && reserved.contains word then "\"" ++ word ++ "\""
      else "word"

/-! ## Blanks and lines -/

/-- What follows blanks and a comment, with the number of lines passed. -/
def afterBlanks : List Char → Nat → List Char × Nat
  | ' ' :: rest, n => afterBlanks rest n
  | '\t' :: rest, n => afterBlanks rest n
  | '\\' :: '\n' :: rest, n => afterBlanks rest (n + 1)
  | '#' :: rest, n => (rest.dropWhile (· != '\n'), n)
  | text, n => (text, n)

/-- Passes over blanks and a comment. -/
def blanks : Reader Unit :=
  modifyThe Source fun source =>
    let (text, passed) := afterBlanks source.text 0
    { source with text, line := source.line + passed }

/-- The lines of a document and what follows the line that ends it. -/
def splitDocument (announced : Announced) : Nat → List Char → List Char × List Char
  | 0, text => (text, [])
  | _, [] => ([], [])
  | fuel + 1, text =>
    let line := text.takeWhile (· != '\n')
    let after := (text.drop line.length).drop 1
    let line := if announced.indented then line.dropWhile (· == '\t') else line
    if line = announced.delimiter then ([], after)
    else
      let (more, after) := splitDocument announced fuel after
      (line ++ '\n' :: more, after)

/-- Sets aside the documents that have been announced. -/
def collectDocuments : List Announced → Reader Unit
  | [] => pure ()
  | announced :: others => do
    let text ← rest
    let (content, after) := splitDocument announced (text.length + 1) text
    skip (text.length - after.length)
    modifyThe Source fun source =>
      { source with
        documents := ⟨announced.number, content, announced.plain⟩ :: source.documents }
    collectDocuments others

/-- Passes over the end of a line and the documents behind it. -/
def newline : Reader Unit := do
  skip 1
  let announced := (← getThe Source).announced
  modifyThe Source fun source => { source with announced := [] }
  collectDocuments announced

/-- Passes over blanks, comments and at most a given number of line ends. -/
def lineBreaks : Nat → Reader Unit
  | 0 => pure ()
  | fuel + 1 => do
    blanks
    if (← rest).head? == some '\n' then
      newline
      lineBreaks fuel

/-- Passes over blanks, comments and line ends. -/
def lineBreak : Reader Unit := do
  lineBreaks ((← rest).length + 1)

/-- Gives up because of what comes next, after the end of a line if that is what comes. -/
def refuseNext {α : Type} (commandStarts : Bool) (wanted : String) : Reader α := do
  let text ← rest
  if text.head? == some '\n' then skip 1
  fail (nextThing commandStarts text ++ " unexpected" ++ wanted)

/-- Passes over a word or a sign that must be next. -/
def expectHere (commandStarts : Bool) (word : String) : Reader Unit := do
  let text ← rest
  let found := if word.all endsWord then String.ofList (text.take word.length) else bareWord text
  if found = word then skip word.length
  else refuseNext commandStarts (" (expecting \"" ++ word ++ "\")")

/-- Passes over line ends and a word that must be next. -/
def expect (word : String) : Reader Unit := do
  lineBreak
  expectHere true word

/-- Whether a list of steps ends here. -/
def atCloser : Reader Bool := do
  let text ← rest
  return match text with
    | [] => true
    | ')' :: _ => true
    | ';' :: ';' :: _ => true
    | _ => closers.contains (bareWord text)

/-! ## Aliases

An alias stands for a text, which takes the place of the name where a command starts. The name
means nothing special in that text. If the text ends with a blank an alias may follow it as well.
-/

/-- What an alias stands for. -/
def aliasOf? (source : Source) (name : String) : Option String :=
  (source.aliases.find? fun entry => entry.1 == name).map (·.2)

/-- The aliases whose texts have not come to their ends. -/
def stillInUse (source : Source) : List (String × Nat) :=
  source.inUse.filter fun entry => entry.2 < source.text.length

/-- Puts texts in place of aliases at the front, after which line ends are passed over by
    `between`. -/
def unfold (between : Reader Unit) : Nat → Reader Unit
  | 0 => pure ()
  | fuel + 1 => do
    between
    let source ← getThe Source
    let name := bareWord source.text
    let inUse := stillInUse source
    let isFree := !reserved.contains name && !inUse.any fun entry => entry.1 == name
    match (aliasOf? source name).filter fun _ => isFree with
    | none => pure ()
    | some meant =>
      let after := source.text.drop name.length
      set { source with text := meant.toList ++ after, inUse := (name, after.length) :: inUse }
      unfold between fuel

/-- The number of aliases that may be put in place of others. -/
def aliasLimit : Reader Nat := do
  return (← getThe Source).aliases.length + 1

/-- Passes over line ends to where a command starts. -/
def commandStart : Reader Unit := do
  unfold lineBreak (← aliasLimit)

/-- Passes over blanks to the next word of a command, where an alias may stand if `mayUnfold` or if
    it follows the text of one that ends with a blank. -/
def nextWord (mayUnfold : Bool) : Reader Unit := do
  let before ← getThe Source
  blanks
  let source ← getThe Source
  let passed := (stillInUse before).filter fun entry => source.text.length ≤ entry.2
  let isNext := passed.any fun entry =>
    ((aliasOf? source entry.1).getD "").toList.getLast?.any " \t".toList.contains
  if mayUnfold || isNext then unfold blanks (← aliasLimit)

/-! ## Words and steps -/

/-- How far a list of steps extends. -/
inductive Extent where
  /-- Up to the end of a line. -/
  | line
  /-- Up to what closes it, with a step at least. -/
  | body
  /-- Up to what closes it. -/
  | any
deriving DecidableEq

/-- What ends a run of fragments. -/
inductive Span where
  /-- The end of a bare word. -/
  | word
  /-- A double quote. -/
  | quote
  /-- A brace; `quoted` tells that the parameter stands in quotes. -/
  | brace (quoted : Bool)
  /-- Two parentheses, with `depth` others still open. -/
  | parentheses (depth : Nat)
  /-- The end of the text. -/
  | document
deriving DecidableEq

/-- Whether fragments are taken as they are. -/
def Span.quotes : Span → Bool
  | word => false
  | brace quoted => quoted
  | quote => true
  | parentheses _ => true
  | document => true

/-- Whether a run of fragments ends before a text. -/
def Span.endsAt : Span → List Char → Bool
  | _, [] => true
  | word, c :: _ => endsWord c
  | quote, c :: _ => c == '"'
  | brace _, c :: _ => c == '}'
  | parentheses depth, c :: rest => depth == 0 && c == ')' && rest.head? == some ')'
  | document, _ :: _ => false

/-- Whether a character means something in a run of fragments. -/
def Span.stops (span : Span) (c : Char) : Bool :=
  "\\$\u0060".toList.contains c || match span with
    | word => endsWord c || c == '\'' || c == '"'
    | quote => c == '"'
    | brace quoted => c == '}' || c == '"' || (!quoted && c == '\'')
    | parentheses _ => c == '(' || c == ')'
    | document => false

/-- Whether a backslash takes the meaning from a character. -/
def Span.escapes (span : Span) (c : Char) : Bool :=
  match span with
  | document => "$\u0060\\".toList.contains c
  | span => !span.quotes || "$\u0060\\\"".toList.contains c

/-- The characters up to the back quote that closes, and how many characters they take with it;
    `none` if there is no such quote. A backslash keeps the next character from being taken for
    something else. -/
def backQuoted : List Char → Option (List Char × Nat)
  | [] => none
  | '\u0060' :: _ => some ([], 1)
  | '\\' :: c :: rest =>
    (backQuoted rest).map fun (inside, count) =>
      (if "$\u0060\\".toList.contains c then c :: inside else '\\' :: c :: inside, count + 2)
  | c :: rest => (backQuoted rest).map fun (inside, count) => (c :: inside, count + 1)

/-- What a sign in braces asks for, if it is one for a missing value. -/
def substituteOf? : Char → Option Substitute
  | '-' => some .use
  | '=' => some .assign
  | '?' => some .demand
  | '+' => some .alternative
  | _ => none

/-- The parameter at the start of a text: a name, a number, or a single character. -/
def parameterOf (text : List Char) (digits : Nat) : List Char :=
  match text with
  | [] => []
  | c :: _ =>
    if isSpecial c then [c]
    else if c.isDigit then (text.takeWhile Char.isDigit).take digits
    else nameOf text

/-- The descriptor and the sign of a redirection at the start of a text. -/
def redirectionOf? (text : List Char) : Option (Option Nat × String × Nat) :=
  let digits := text.takeWhile Char.isDigit
  let number := if digits.isEmpty then none else (String.ofList digits).toNat?
  let signs := ["<<-", "<<", "<&", "<>", "<", ">>", ">&", ">|", ">"]
  (signs.find? fun sign => sign.toList.isPrefixOf (text.drop digits.length)).map fun sign =>
    (number, sign, digits.length + sign.length)

/-- A delimiter without its quotes, and how many characters it takes. -/
def delimiterOf : List Char → List Char × Nat
  | [] => ([], 0)
  | '\\' :: c :: rest =>
    let (word, count) := delimiterOf rest
    (c :: word, count + 2)
  | c :: rest =>
    if endsWord c then ([], 0)
    else
      let (word, count) := delimiterOf rest
      (if c == '\'' || c == '"' then word else c :: word, count + 1)

/-- A part of a command that is made up of words. -/
inductive Part where
  | assignment (name : String) (value : Word)
  | word (word : Word)
  | redirect (target : Redirect)

/-- The assignment that a part is. -/
def Part.assignment? : Part → Option (String × Word)
  | assignment name value => some (name, value)
  | _ => none

/-- The word that a part is. -/
def Part.word? : Part → Option Word
  | word w => some w
  | _ => none

/-- The redirection that a part is. -/
def Part.redirect? : Part → Option Redirect
  | redirect target => some target
  | _ => none

/-- The sign that a redirection from or to a file starts with. -/
def directionOf (sign : String) : Direction :=
  if sign = "<" then .input
  else if sign = "<>" then .both
  else if sign = ">>" then .append
  else if sign = ">|" then .overwrite
  else if sign = "<&" ∨ sign = ">&" then .duplicate
  else .output

mutual

/-- Fragments up to the end of a span. -/
def fragments : Nat → Span → Reader Word
  | 0, _ => fail "Too long"
  | fuel + 1, span => do
    let text ← rest
    if span.endsAt text then return []
    match text with
    | '\\' :: '\n' :: _ =>
      skip 2
      fragments fuel span
    | '\\' :: c :: _ =>
      if span.escapes c then
        skip 2
        return .text (String.singleton c) true :: (← fragments fuel span)
      skip 1
      return .text "\\" span.quotes :: (← fragments fuel span)
    | '\'' :: inside =>
      if span.quotes then plainly fuel span
      else
        let quoted := inside.takeWhile (· != '\'')
        skip (quoted.length + 1)
        if quoted.length = inside.length then fail "Unterminated quoted string"
        skip 1
        return .text (String.ofList quoted) true :: (← fragments fuel span)
    | '"' :: _ =>
      if span matches .document | .parentheses _ then plainly fuel span
      else
        skip 1
        let quoted ← fragments fuel .quote
        if (← rest).isEmpty then fail "Unterminated quoted string"
        skip 1
        let quoted := if quoted.isEmpty then [.text "" true] else quoted
        return quoted ++ (← fragments fuel span)
    | '$' :: _ =>
      skip 1
      return (← dollar fuel span.quotes) :: (← fragments fuel span)
    | '\u0060' :: inside =>
      match backQuoted inside with
      | none =>
        skip text.length
        fail "EOF in backquote substitution"
      | some (inner, count) =>
        let source ← getThe Source
        let inUse := (stillInUse source).map fun entry => (entry.1, 0)
        set { source with text := inner, line := 1, inUse }
        let steps ← list fuel .always .any
        modifyThe Source fun after =>
          { after with
            text := inside.drop count
            line := source.line + inner.count '\n'
            inUse := source.inUse }
        return .output steps span.quotes :: (← fragments fuel span)
    | '(' :: _ =>
      match span with
      | .parentheses depth =>
        skip 1
        return .text "(" true :: (← fragments fuel (.parentheses (depth + 1)))
      | _ => plainly fuel span
    | ')' :: _ =>
      match span with
      | .parentheses (depth + 1) =>
        skip 1
        return .text ")" true :: (← fragments fuel (.parentheses depth))
      | _ => plainly fuel span
    | _ => plainly fuel span
termination_by structural fuel => fuel

/-- Fragments that start with a character that means nothing. -/
def plainly : Nat → Span → Reader Word
  | 0, _ => fail "Too long"
  | fuel + 1, span => do
    let first := (← rest).take 1
    skip 1
    let others ← skipWhile fun c => !span.stops c
    return .text (String.ofList (first ++ others)) span.quotes :: (← fragments fuel span)
termination_by structural fuel => fuel

/-- What a dollar sign introduces. -/
def dollar : Nat → Bool → Reader Fragment
  | 0, _ => fail "Too long"
  | fuel + 1, quoted => do
    match ← rest with
    | '(' :: '(' :: _ =>
      skip 2
      let expression ← fragments fuel (.parentheses 0)
      if (← rest).isEmpty then fail "Missing '))'"
      skip 2
      return .arithmetic expression quoted
    | '(' :: _ =>
      skip 1
      let steps ← list fuel .always .any
      expect ")"
      return .output steps quoted
    | '{' :: _ =>
      skip 1
      braced fuel quoted
    | text =>
      let name := parameterOf text 1
      skip name.length
      return if name.isEmpty then .text "$" quoted
        else .parameter (String.ofList name) .plain quoted
termination_by structural fuel => fuel

/-- What stands in braces behind a dollar sign. -/
def braced : Nat → Bool → Reader Fragment
  | 0, _ => fail "Too long"
  | fuel + 1, quoted => do
    let text ← rest
    match text with
    | '#' :: c :: more =>
      let name := parameterOf (c :: more) text.length
      if c != '}' && ((c :: more).drop name.length).head? == some '}' then
        skip (name.length + 2)
        return .size (String.ofList name) quoted
    | _ => pure ()
    let name := String.ofList (parameterOf text text.length)
    skip name.length
    let rule ← if name.isEmpty then unknownRule fuel else match ← rest with
      | '%' :: '%' :: _ => trimRule fuel 2 true true
      | '%' :: _ => trimRule fuel 1 true false
      | '#' :: '#' :: _ => trimRule fuel 2 false true
      | '#' :: _ => trimRule fuel 1 false false
      | ':' :: c :: _ => substituteRule fuel 2 c true quoted
      | '}' :: _ => pure .plain
      | c :: _ => substituteRule fuel 1 c false quoted
      | [] => pure .plain
    if (← rest).head? != some '}' then
      fail (if quoted then "Unterminated quoted string" else "Missing '\x7d'")
    skip 1
    return .parameter name rule quoted
termination_by structural fuel => fuel

/-- A rule that does not exist, up to the brace that closes it. -/
def unknownRule : Nat → Reader Rule
  | 0 => fail "Too long"
  | fuel + 1 => do
    let _ ← fragments fuel (.brace false)
    return .unknown
termination_by structural fuel => fuel

/-- The rule that takes a pattern off an end. -/
def trimRule : Nat → Nat → Bool → Bool → Reader Rule
  | 0, _, _, _ => fail "Too long"
  | fuel + 1, count, atEnd, longest => do
    skip count
    return .trim atEnd longest (← fragments fuel (.brace false))
termination_by structural fuel => fuel

/-- The rule for a value that is missing. -/
def substituteRule : Nat → Nat → Char → Bool → Bool → Reader Rule
  | 0, _, _, _, _ => fail "Too long"
  | fuel + 1, count, sign, orEmpty, quoted => do
    match substituteOf? sign with
    | none => if sign == '\n' then fail "Missing '\x7d'" else unknownRule fuel
    | some kind =>
      skip count
      return .substitute kind orEmpty (← fragments fuel (.brace quoted))
termination_by structural fuel => fuel

/-- Steps as far as `extent` tells. The first of them is taken as `join` says. -/
def list : Nat → Join → Extent → Reader (List Step)
  | 0, _, _ => fail "Too long"
  | fuel + 1, join, extent => do
    commandStart
    if ← atCloser then
      let mayEnd := join == .always && (extent != .body || (← rest).isEmpty)
      if mayEnd then return []
      refuseNext true ""
    let step ← pipeline fuel join
    blanks
    match ← rest with
    | '&' :: '&' :: _ =>
      skip 2
      return step :: (← list fuel .ifPassed extent)
    | '|' :: '|' :: _ =>
      skip 2
      return step :: (← list fuel .ifFailed extent)
    | ';' :: ';' :: _ => return [step]
    | '\n' :: _ =>
      if extent == .line then return [step]
      return step :: (← list fuel .always .any)
    | c :: _ =>
      if c != ';' && c != '&' then return [step]
      let step := step.setDetached (c == '&')
      skip 1
      blanks
      if extent == .line && (← rest).head? == some '\n' then return [step]
      return step :: (← list fuel .always (if extent == .line then .line else .any))
    | [] => return [step]
termination_by structural fuel => fuel

/-- A pipeline. -/
def pipeline : Nat → Join → Reader Step
  | 0, _ => fail "Too long"
  | fuel + 1, join => do
    let negated := bareWord (← rest) == "!"
    if negated then
      skip 1
      unfold blanks (← aliasLimit)
    return .mk join negated (← tasks fuel (← getThe Source).line) false
termination_by structural fuel => fuel

/-- The commands of a pipeline, the first of which counts as starting on the given line. -/
def tasks : Nat → Nat → Reader (List Task)
  | 0, _ => fail "Too long"
  | fuel + 1, line => do
    let task ← command fuel line
    blanks
    match ← rest with
    | '|' :: '|' :: _ => return [task]
    | '|' :: _ =>
      skip 1
      let line := (← getThe Source).line
      commandStart
      return task :: (← tasks fuel line)
    | _ => return [task]
termination_by structural fuel => fuel

/-- A command that counts as starting on the given line, unless it is made up of words. -/
def command : Nat → Nat → Reader Task
  | 0, _ => fail "Too long"
  | fuel + 1, line => do
    let text ← rest
    let name := nameOf text
    match bareWord text with
    | "if" =>
      skip 2
      let (cases, otherwise) ← branches fuel
      return .branch line cases otherwise (← redirects fuel)
    | "while" =>
      skip 5
      loopOf fuel line false
    | "until" =>
      skip 5
      loopOf fuel line true
    | "for" =>
      skip 3
      eachOf fuel line
    | "case" =>
      skip 4
      blanks
      if Span.word.endsAt (← rest) then refuseNext false " (expecting word)"
      let subject ← fragments fuel .word
      expect "in"
      let clauses ← clausesOf fuel
      return .select line subject clauses (← redirects fuel)
    | "\x7b" =>
      skip 1
      let body ← list fuel .always .body
      expect "\x7d"
      return .group line body (← redirects fuel)
    | _ =>
      if text.head? == some '(' then
        skip 1
        let body ← list fuel .always .body
        expect ")"
        return .separate line body (← redirects fuel)
      else
        let after := (text.drop name.length).dropWhile (· == ' ')
        if !name.isEmpty && after.head? == some '(' then
          skip name.length
          blanks
          expectHere false "("
          blanks
          expectHere false ")"
          let line := (← getThe Source).line
          commandStart
          return .define (String.ofList name) (← command fuel line)
        if reserved.contains (bareWord text) then refuseNext true ""
        match ← part? fuel true with
        | none => refuseNext true ""
        | some first =>
          let line := (← getThe Source).line
          let parts := first :: (← parts fuel first.word?.isNone)
          return .simple line (parts.filterMap Part.assignment?) (parts.filterMap Part.word?)
            (parts.filterMap Part.redirect?)
termination_by structural fuel => fuel

/-- The branches behind a condition. -/
def branches : Nat → Reader (List (List Step × List Step) × List Step)
  | 0 => fail "Too long"
  | fuel + 1 => do
    let condition ← list fuel .always .body
    expect "then"
    let body ← list fuel .always .body
    match bareWord (← rest) with
    | "elif" =>
      skip 4
      let (cases, otherwise) ← branches fuel
      return ((condition, body) :: cases, otherwise)
    | "else" =>
      skip 4
      let otherwise ← list fuel .always .body
      expect "fi"
      return ([(condition, body)], otherwise)
    | _ =>
      expect "fi"
      return ([(condition, body)], [])
termination_by structural fuel => fuel

/-- A loop behind its first word. -/
def loopOf : Nat → Nat → Bool → Reader Task
  | 0, _, _ => fail "Too long"
  | fuel + 1, line, untilPassed => do
    let condition ← list fuel .always .body
    expect "do"
    let body ← list fuel .always .body
    expect "done"
    return .loop line untilPassed condition body (← redirects fuel)
termination_by structural fuel => fuel

/-- A loop over items behind its first word. -/
def eachOf : Nat → Nat → Reader Task
  | 0, _ => fail "Too long"
  | fuel + 1, line => do
    blanks
    let name := nameOf (← rest)
    if name.isEmpty then fail "Bad for loop variable"
    skip name.length
    lineBreak
    let items ← if bareWord (← rest) = "in" then
        skip 2
        let words := (← parts fuel false).filterMap Part.word?
        let ended := (← rest).head?
        if ended != some ';' && ended != some '\n' then refuseNext false ""
        pure (some words)
      else pure none
    if (← rest).head? == some ';' then skip 1
    expect "do"
    let body ← list fuel .always .body
    expect "done"
    return .each line (String.ofList name) items body (← redirects fuel)
termination_by structural fuel => fuel

/-- The clauses of a selection. -/
def clausesOf : Nat → Reader (List (List Word × List Step))
  | 0 => fail "Too long"
  | fuel + 1 => do
    lineBreak
    if bareWord (← rest) = "esac" then
      skip 4
      return []
    if (← rest).head? == some '(' then skip 1
    let patterns ← alternatives fuel
    expectHere false ")"
    let body ← list fuel .always .any
    if (← rest).take 2 = [';', ';'] then
      skip 2
      return (patterns, body) :: (← clausesOf fuel)
    if bareWord (← rest) != "esac" then refuseNext true " (expecting \";;\")"
    skip 4
    return [(patterns, body)]
termination_by structural fuel => fuel

/-- The patterns of a clause. -/
def alternatives : Nat → Reader (List Word)
  | 0 => fail "Too long"
  | fuel + 1 => do
    blanks
    let pattern ← fragments fuel .word
    blanks
    if (← rest).head? == some '|' then
      skip 1
      return pattern :: (← alternatives fuel)
    return [pattern]
termination_by structural fuel => fuel

/-- A part of a command that is made up of words, if there is one more. -/
def part? : Nat → Bool → Reader (Option Part)
  | 0, _ => fail "Too long"
  | fuel + 1, mayAssign => do
    nextWord mayAssign
    let text ← rest
    if (redirectionOf? text).isSome then return some (.redirect (← redirect fuel))
    if Span.word.endsAt text then return none
    let name := nameOf text
    if mayAssign && !name.isEmpty && (text.drop name.length).head? == some '=' then
      skip (name.length + 1)
      return some (.assignment (String.ofList name) (← fragments fuel .word))
    return some (.word (← fragments fuel .word))
termination_by structural fuel => fuel

/-- Assignments, words and redirections as they come. Once a word has come there are no
    assignments any more. -/
def parts : Nat → Bool → Reader (List Part)
  | 0, _ => fail "Too long"
  | fuel + 1, mayAssign => do
    match ← part? fuel mayAssign with
    | none => return []
    | some part => return part :: (← parts fuel (mayAssign && part.word?.isNone))
termination_by structural fuel => fuel

/-- The redirections that are next. -/
def redirects : Nat → Reader (List Redirect)
  | 0 => fail "Too long"
  | fuel + 1 => do
    blanks
    if (redirectionOf? (← rest)).isSome then
      let target ← redirect fuel
      return target :: (← redirects fuel)
    return []
termination_by structural fuel => fuel

/-- A redirection. -/
def redirect : Nat → Reader Redirect
  | 0 => fail "Too long"
  | fuel + 1 => do
    match redirectionOf? (← rest) with
    | none => fail "Redirection expected"
    | some (number, sign, count) =>
      skip count
      blanks
      let fallback := if sign.toList.head? == some '<' then 0 else 1
      let descriptor := number.getD fallback
      if Span.word.endsAt (← rest) then refuseNext false ""
      if sign = "<<" ∨ sign = "<<-" then
        let text ← rest
        let (delimiter, length) := delimiterOf text
        let plain := (text.take length).any fun c => "'\"\\".toList.contains c
        skip length
        let document := (← getThe Source).next
        modifyThe Source fun source =>
          { source with
            next := document + 1
            announced := source.announced ++ [⟨document, delimiter, plain, sign == "<<-"⟩] }
        return .document descriptor document
      let target ← fragments fuel .word
      return .to descriptor (directionOf sign) target
termination_by structural fuel => fuel

end

/-- The steps of a line, and the documents that they announce. -/
def line (depth : Nat) : Reader (List Step) := do
  let steps ← list depth .always .line
  let text ← rest
  if text.head? == some '\n' then newline
  else if !text.isEmpty then fail (nextThing true text ++ " unexpected")
  return steps

/-- How deep fragments can be in a text: nothing in it is nested deeper than it has characters. -/
def depthOf (size : Nat) : Nat := 4 * size + 16

/-- The fragments of a document. -/
def documentWord (document : Document) : Nat × Word :=
  let read := fragments (depthOf document.text.length) .document
  if document.plain then (document.number, [.text (String.ofList document.text) true])
  else
    match (read.readFrom ⟨document.text, 1, [], [], 0, [], []⟩).1 with
    | .ok word => (document.number, word)
    | .error _ => (document.number, [.text (String.ofList document.text) true])

end Reader

/-- A line of a script as far as it could be read, and the documents in it by their numbers. -/
structure Script.Line where
  steps : List Step
  documents : List (Nat × Word)
  flaw : Option Misreading
  /-- All that had to be read for it, up to the end of a line. -/
  source : List Char

namespace Source

/-- A text that has not been read yet. -/
def ofText (text : String) : Source :=
  ⟨text.toList, 1, [], [], 0, [], []⟩

/-- The text of lines of which a number of characters have been read. -/
def passed (text : List Char) (count : Nat) : List Char :=
  let line := (text.drop count).takeWhile (· != '\n')
  match (text.take count).getLast? with
  | none => []
  | some '\n' => text.take count
  | some _ => text.take (count + line.length + 1)

/-- Reads the next line with commands in it, whose documents are numbered from `first` on, and gives
    back what follows it. -/
def readLine (source : Source) (aliases : List (String × String)) (first : Nat) :
    Script.Line × Source :=
  let meant := (aliases.map fun entry => entry.2.length).foldl (· + ·) 0
  let depth := Reader.depthOf ((source.text.length + 1) * (meant + 1))
  let start := { source with aliases, documents := [], next := max source.next first }
  let (result, after) := (Reader.line depth).readFrom start
  let documents := after.documents.map Reader.documentWord
  let text := passed source.text (source.text.length - after.text.length)
  match result with
  | .ok steps => (⟨steps, documents, none, text⟩, after)
  | .error flaw => (⟨[], documents, some flaw, text⟩, { after with text := [] })

end Source
end Shell
end SuiteCoverage
