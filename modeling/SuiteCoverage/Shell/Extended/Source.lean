import SuiteCoverage.Shell.Extended.Own
import SuiteCoverage.Shell.Extended.Braces
import SuiteCoverage.Shell.Extended.Escape

/-!
# Sources of scripts

What is left of the text of a script, and how it is passed over character by character. A flaw is
told with the line that it is on.
-/

set_option autoImplicit false

namespace SuiteCoverage
namespace Shell
namespace Extended

/-- What is wrong with a script, each sentence with the number of a line, and the status for
    that. -/
structure Misreading where
  complaints : List (Nat × String)
  status : Nat
  /-- Whether the script has come to its end too early. -/
  isAtEnd : Bool
deriving DecidableEq, Repr

/-- A document that has been announced and not reached yet. -/
structure Announced where
  number : Nat
  /-- The word that ends it, as it stands there, and without quotes. -/
  raw : String
  delimiter : List Char
  /-- Whether the document is taken as it is, because its delimiter is quoted. -/
  plain : Bool
  /-- Whether tabs at the start of its lines are dropped. -/
  indented : Bool
  /-- The line that announces it. -/
  line : Nat

/-- A document as it stands in the script. -/
structure Found where
  announced : Announced
  text : List Char

/-- What is left of a script, and what has been set aside. -/
structure Source where
  text : List Char
  line : Nat
  /-- The number of characters that have been passed. -/
  passed : Nat
  /-- The text from the start of the current line on. -/
  lineText : List Char
  announced : List Announced
  documents : List Found
  /-- Documents that have not come to their ends, and the lines on which the script does. -/
  unended : List (Nat × Announced)
  /-- The number of the next document. -/
  next : Nat
  /-- Whether patterns may have parentheses. -/
  hasGroups : Bool
  aliases : List (String × String)
  /-- The aliases that have been put in place of their names, the last first, and the number of
      characters that follow each of them. -/
  inUse : List (String × Nat)

/-- Reads from a script. -/
abbrev Reader := ExceptT Misreading (StateM Source)

namespace Reader

/-- What is read from a source, and what is left of the source. -/
def readFrom {α : Type} (reader : Reader α) (source : Source) :
    Except Misreading α × Source :=
  (ExceptT.run reader).run source

/-- The characters that are left. -/
def rest : Reader (List Char) := do
  return (← getThe Source).text

/-- The line that is being read. -/
def lineNumber : Reader Nat := do
  return (← getThe Source).line

/-- A source one character on. -/
def passOne (source : Source) (c : Char) (rest : List Char) : Source :=
  if c = '\n' then
    { source with
      text := rest
      line := source.line + 1
      passed := source.passed + 1
      lineText := rest }
  else { source with text := rest, passed := source.passed + 1 }

/-- A source some characters on. -/
def passMany : Nat → Source → Source
  | 0, source => source
  | count + 1, source =>
    match source.text with
    | [] => source
    | c :: rest => passMany count (passOne source c rest)

/-- Passes over some characters. -/
def skip (count : Nat) : Reader Unit := modifyThe Source (passMany count)

/-- Passes over characters of a kind and gives them back. -/
def skipWhile (kind : Char → Bool) : Reader (List Char) := do
  let taken := (← rest).takeWhile kind
  skip taken.length
  return taken

/-- What is read, and the text that is passed over for it. -/
def withText {α : Type} (reader : Reader α) : Reader (α × String) := do
  let before ← getThe Source
  let result ← reader
  let after ← getThe Source
  return (result, String.ofList (before.text.take (after.passed - before.passed)))

/-- The text that a reader passes over. -/
def textOf (reader : Reader Unit) : Reader String := do return (← withText reader).2

/-! ## Flaws -/

/-- Gives up with sentences. -/
def failWith {α : Type} (status : Nat) (complaints : List (Nat × String)) : Reader α := do
  throw ⟨complaints, status, false⟩

/-- The usual status for a flaw. -/
def flawStatus : Nat := 2

/-- The line that is being read, as it is shown. -/
def shownLine : Reader String := do
  return "\u0060" ++ String.ofList ((← getThe Source).lineText.takeWhile (· != '\n')) ++ "'"

/-- Gives up because of what comes next, after a sentence of its own if there is one. -/
def refuseNear {α : Type} (sentence : Option String) (told : String) : Reader α := do
  let line ← lineNumber
  failWith flawStatus
    ((sentence.map fun text => (line, text)).toList ++ [(line, told), (line, ← shownLine)])

/-- Gives up because the script is at its end. -/
def refuseEnd {α : Type} : Reader α := do
  throw ⟨[(← lineNumber, "syntax error: unexpected end of file")], flawStatus, true⟩

/-- Gives up because something that was opened on a line has not been closed. -/
def refuseOpen {α : Type} (line : Nat) (closer : String) : Reader α := do
  throw
    ⟨[(line, "unexpected EOF while looking for matching \u0060" ++ closer ++ "'")], flawStatus,
      true⟩

/-- A reader with steps left, or a script that is nested too deep. -/
def tooDeep {α : Type} : Reader α := do
  failWith flawStatus [(← lineNumber, "maximum here-document count exceeded")]

/-! ## Characters and names -/

/-- Characters that end a bare word. -/
def endsWord (c : Char) : Bool :=
  " \t\n;&|<>()".toList.contains c

/-- Characters that can start a name. -/
def startsName (c : Char) : Bool :=
  c.isAlpha || c == '_'

/-- Characters that a name can go on with. -/
def continuesName (c : Char) : Bool :=
  c.isAlphanum || c == '_'

/-- Names of parameters that are a single character. -/
def isSpecial (c : Char) : Bool :=
  "@*#?-$!".toList.contains c

/-- The name at the start of a text; empty if there is none. -/
def nameOf (text : List Char) : List Char :=
  match text with
  | c :: _ => if startsName c then text.takeWhile continuesName else []
  | [] => []

/-- The bare characters up to the end of a word; a word with a quote or a dollar sign ends
    there, and so is no reserved word. -/
def bareWord (text : List Char) : String :=
  let word := text.takeWhile fun c => !endsWord c
  if word.any fun c => "'\"\\$\u0060".toList.contains c then "" else String.ofList word

/-- The words that end a list of steps. -/
def closers : List String :=
  ["then", "else", "elif", "fi", "do", "done", "esac", "\x7d"]

/-- The words that mean something where a command starts. -/
def reserved : List String :=
  closers ++ ["if", "while", "until", "for", "case", "in", "\x7b", "!", "[[", "]]", "select",
    "function", "time", "coproc"]

/-- The signs between words. -/
def signs : List String :=
  [";;&", "&>>", "<<<", "<<-", "&&", "||", "|&", ";;", ";&", "&>", "<<", "<&", "<>", ">>", ">&",
    ">|", ";", "&", "|", "(", ")", "<", ">"]

/-- The sign at the start of a text. -/
def signOf? (text : List Char) : Option String :=
  signs.find? fun sign => sign.toList.isPrefixOf text

/-- The number of characters of blanks at the start of a text, and of a comment behind them. -/
def blankCount : List Char → Nat
  | ' ' :: rest => blankCount rest + 1
  | '\t' :: rest => blankCount rest + 1
  | '\\' :: '\n' :: rest => blankCount rest + 2
  | '#' :: rest => (rest.takeWhile (· != '\n')).length + 1
  | _ => 0

/-- Passes over blanks and a comment. -/
def blanks : Reader Unit := do skip (blankCount (← rest))

/-- Passes over blanks that a comment may not follow. -/
def plainBlanks : Reader Unit := do
  let _ ← skipWhile fun c => c == ' ' || c == '\t'

/-! ## Documents -/

/-- The lines of a document, the number of characters that it takes up with the line that ends it,
    and whether there is such a line. -/
def splitDocument (announced : Announced) : Nat → List Char → List Char × Nat × Bool
  | 0, _ => ([], 0, false)
  | _, [] => ([], 0, false)
  | fuel + 1, text =>
    let line := text.takeWhile (· != '\n')
    let after := (text.drop line.length).drop 1
    let size := line.length + if (text.drop line.length).isEmpty then 0 else 1
    let isJoined := !announced.plain && !after.isEmpty
      && (line.reverse.takeWhile (· == '\\')).length % 2 = 1
    let shown := if announced.indented then line.dropWhile (· == '\t') else line
    if shown = announced.delimiter then ([], size, true)
    else
      let (more, count, ended) := splitDocument announced fuel after
      if isJoined then (shown.dropLast ++ more, size + count, ended)
      else (shown ++ '\n' :: more, size + count, ended)

/-- Sets aside the documents that have been announced. -/
def collectDocuments : List Announced → Reader Unit
  | [] => pure ()
  | announced :: others => do
    let text ← rest
    let (content, count, ended) := splitDocument announced (text.length + 1) text
    skip count
    modifyThe Source fun source =>
      { source with
        documents := ⟨announced, content⟩ :: source.documents
        unended := if ended then source.unended
          else source.unended ++ [(source.line, announced)] }
    collectDocuments others

/-- Passes over the end of a line and the documents behind it. -/
def newline : Reader Unit := do
  skip 1
  let announced := (← getThe Source).announced
  modifyThe Source fun source => { source with announced := [] }
  collectDocuments announced

/-- Passes over blanks, comments and at most a given number of line ends. -/
def lineBreaks : Nat → Reader Unit
  | 0 => pure ()
  | fuel + 1 => do
    blanks
    if (← rest).head? == some '\n' then
      newline
      lineBreaks fuel

/-- Passes over blanks, comments and line ends. -/
def lineBreak : Reader Unit := do
  lineBreaks ((← rest).length + 1)

/-! ## Aliases -/

/-- What an alias stands for. -/
def aliasOf? (source : Source) (name : String) : Option String :=
  (source.aliases.find? fun entry => entry.1 == name).map (·.2)

/-- The aliases whose texts have not come to their ends. -/
def stillInUse (source : Source) : List (String × Nat) :=
  source.inUse.filter fun entry => entry.2 < source.text.length

/-- Puts texts in place of aliases at the front, after which line ends are passed over by
    `between`. -/
def unfold (between : Reader Unit) : Nat → Reader Unit
  | 0 => pure ()
  | fuel + 1 => do
    between
    let source ← getThe Source
    if !source.aliases.isEmpty then
      let name := bareWord source.text
      let inUse := stillInUse source
      let isFree := !reserved.contains name && !inUse.any fun entry => entry.1 == name
      match (aliasOf? source name).filter fun _ => isFree with
      | none => pure ()
      | some meant =>
        let after := source.text.drop name.length
        set { source with text := meant.toList ++ after, inUse := (name, after.length) :: inUse }
        unfold between fuel

/-- The number of aliases that may be put in place of others. -/
def aliasLimit : Reader Nat := do
  return (← getThe Source).aliases.length + 1

/-- Passes over line ends to where a command starts. -/
def commandStart : Reader Unit := do
  unfold lineBreak (← aliasLimit)

/-- Passes over blanks to the next word of a command, where an alias may stand if `mayUnfold` or if
    it follows the text of one that ends with a blank. -/
def nextWord (mayUnfold : Bool) : Reader Unit := do
  let before ← getThe Source
  blanks
  let source ← getThe Source
  if !source.aliases.isEmpty then
    let passed := (stillInUse before).filter fun entry => source.text.length ≤ entry.2
    let isNext := passed.any fun entry =>
      ((aliasOf? source entry.1).getD "").toList.getLast?.any " \t".toList.contains
    if mayUnfold || isNext then unfold blanks (← aliasLimit)

end Reader
end Extended
end Shell
end SuiteCoverage
